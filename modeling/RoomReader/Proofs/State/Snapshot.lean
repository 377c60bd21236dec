import Mathlib.Data.List.Pairwise
import Mathlib.Data.List.Perm.Basic
import RoomReader.Proofs.State.Overwrite
import RoomReader.Proofs.State.Replies

namespace RoomReader

/-!
# Live updates and a reload

A homeserver lists as state only the last event of each type and state key, in any order. What it
leaves out has been superseded, and what it lists can be taken in any order. Hence a room that is
loaded anew has the state that the live updates had led to.
-/

/-- What a homeserver lists of a chronicle: the last event of each type and state key. -/
def compact : List Event → List Event
  | [] => []
  | e :: later => if later.any (·.slot == e.slot) then compact later else e :: compact later

/-- State events in the order in which they happened. None lacks a key that an earlier one of its
type and state key presented. -/
structure Chronicle (events : List Event) : Prop where
  settled : ∀ e ∈ events, e.Settled
  presents : events.Pairwise fun e e' =>
    e.slot = e'.slot → e.content.presented ⊆ e'.content.presented

section

variable {e : Event} {events before later listed : List Event}

theorem compact_sublist (events : List Event) : (compact events).Sublist events := by
  induction events with
  | nil => exact .slnil
  | cons e later ih =>
      rw [compact]
      split
      · exact ih.cons e
      · exact ih.cons_cons e

theorem slot_ne_of_mem_compact (events : List Event) :
    (compact events).Pairwise fun e e' => e.slot ≠ e'.slot := by
  induction events with
  | nil => exact .nil
  | cons e later ih =>
      rw [compact]
      split
      · exact ih
      · rename_i hlast
        refine .cons ?_ ih
        intro e' he' hslot
        refine hlast (List.any_eq_true.2 ⟨e', (compact_sublist later).subset he', ?_⟩)
        exact beq_iff_eq.2 hslot.symm

theorem Chronicle.sublist (h : Chronicle events) (hsub : later.Sublist events) :
    Chronicle later :=
  ⟨fun e he => h.settled e (hsub.subset he), h.presents.sublist hsub⟩

theorem Chronicle.supersedes (h : Chronicle (e :: later)) {e' : Event} (he' : e' ∈ later)
    (hslot : e.slot = e'.slot) : e'.Supersedes e :=
  ⟨hslot, (List.pairwise_cons.1 h.presents).1 e' he' hslot⟩

namespace RoomState

/-- An event moves back past events of other types and state keys, until one supersedes it. -/
theorem apply_cons_of_superseded (s : RoomState) (h : Chronicle (e :: later))
    (hany : later.any (·.slot == e.slot)) : s.apply (e :: later) false = s.apply later false := by
  induction later generalizing s with
  | nil => cases hany
  | cons e' later ih =>
      have he := h.settled e List.mem_cons_self
      have he' := h.settled e' (List.mem_cons_of_mem _ List.mem_cons_self)
      by_cases hslot : e.slot = e'.slot
      · have hsupersedes := h.supersedes List.mem_cons_self hslot
        exact congrArg (·.apply later false) (applyEvent_of_supersedes hsupersedes he')
      · have hrest : Chronicle (e :: later) := h.sublist (.cons_cons _ (List.sublist_cons_self ..))
        -- What the induction leaves is that `e` can trade places with `e'`.
        have hcomm := congrArg (·.apply later false) (applyEvent_comm (s := s) he he' hslot)
        rw [List.any_cons, beq_eq_false_iff_ne.2 (Ne.symm hslot), Bool.false_or] at hany
        exact hcomm.trans (ih (s.applyEvent e' false) hrest hany)

theorem apply_compact (s : RoomState) (h : Chronicle events) :
    s.apply (compact events) false = s.apply events false := by
  induction events generalizing s with
  | nil => rfl
  | cons e later ih =>
      have hlater : Chronicle later := h.sublist (List.sublist_cons_self ..)
      rw [compact]
      split
      · rename_i hany
        rw [ih s hlater, apply_cons_of_superseded s h hany]
      · exact ih (s.applyEvent e false) hlater

theorem apply_of_perm_compact (s : RoomState) (h : Chronicle events)
    (hlisted : listed.Perm (compact events)) : s.apply listed false = s.apply events false := by
  -- A compacted list has no two events of one slot, so any two of its events commute.
  have hcomm (e) (he : e ∈ compact events) (e') (he' : e' ∈ compact events) (s : RoomState) :
      (s.applyEvent e false).applyEvent e' false = (s.applyEvent e' false).applyEvent e false := by
    by_cases heq : e = e'
    · rw [heq]
    · have : Std.Symm fun e e' : Event => e.slot ≠ e'.slot := ⟨fun _ _ => Ne.symm⟩
      have hne := (slot_ne_of_mem_compact events).forall he he' heq
      have hmem := (compact_sublist events).subset
      exact applyEvent_comm (h.settled e (hmem he)) (h.settled e' (hmem he')) hne
  rw [← apply_compact s h]
  exact (hlisted.symm.foldl_eq' hcomm s).symm

theorem applyEvent_of_not_isState (s : RoomState) (h : e.isState = false) :
    s.applyEvent e false = s := by
  unfold applyEvent
  cases hkey : e.stateKey with
  | none => rfl
  | some key => simp [Event.isState, hkey] at h

theorem applyEvent_of_isRedaction (s : RoomState) (h : e.isRedaction) :
    s.applyEvent e false = s := by
  unfold applyEvent
  unfold Event.isRedaction at h
  split at h
  · rename_i hcontent
    rw [hcontent]
    cases e.stateKey <;> rfl
  · cases h

theorem apply_kept (s : RoomState) (events : List Event) :
    s.apply (Timeline.kept events) false = s.apply events false :=
  apply_filter s events false fun _ s h => applyEvent_of_isRedaction s (by simpa using h)

theorem apply_isState (s : RoomState) (events : List Event) :
    s.apply (events.filter Event.isState) false = s.apply events false :=
  apply_filter s events false fun _ s h => applyEvent_of_not_isState s h

end RoomState

end

/-- A room that is loaded anew has the state that its chronicle leads to event by event, and that is
what a room cached since `before` shows once it has heard of `later`. It does not matter in which
order the homeserver lists the state. -/
theorem reload_eq_live {events : List Event} (h : Chronicle events) {again : InitialSync}
    (hagain : again.state.Perm (compact events)) (room : String) (now : Time) :
    (({} : RoomState).apply events false).recalculate = (Room.ofSync room now again).state ∧
      ∀ {σ : Type} {hs : Homeserver σ} {settings : RoomSettings} {room' : String} {now' : Time}
        {s : σ} {loaded : σ × List Answered} {r : Room} {x : Timeline.Config (σ × List Answered)}
        {before later listed heard : List Event},
        events = before ++ later → listed.Perm (compact before) →
        (Room.load settings now' room').run hs.recorded (s, []) = (some (.ok r), loaded) →
        Timeline.Run hs.recorded room' Timeline.Unnoted ⟨r.timeline, r.state, loaded⟩ x →
        x.server.2.flatMap Answered.stateEvents = listed ++ heard →
        heard.filter Event.isState = Timeline.kept later →
        x.state = (Room.ofSync room now again).state := by
  have hreload : (({} : RoomState).apply events false).recalculate =
      (Room.ofSync room now again).state :=
    congrArg RoomState.recalculate (RoomState.apply_of_perm_compact {} h hagain).symm
  refine ⟨hreload, ?_⟩
  intro σ hs settings room' now' s loaded r x before later listed heard hevents hlisted hload hrun
    htranscript hheard
  subst hevents
  have hx := Timeline.derives_of_run (x := ⟨r.timeline, r.state, loaded⟩)
    (Timeline.derives_of_load hload) hrun
  have hbase : x.state.base = ({} : RoomState).apply (before ++ later) false := by
    calc x.state.base
        = (({} : RoomState).apply listed false).apply heard false := by
          rw [hx.base, htranscript, RoomState.apply_append]
      _ = (({} : RoomState).apply before false).apply heard false := by
          rw [RoomState.apply_of_perm_compact {} (h.sublist (List.sublist_append_left ..)) hlisted]
      _ = (({} : RoomState).apply before false).apply later false := by
          rw [← RoomState.apply_isState _ heard, hheard, RoomState.apply_kept]
      _ = ({} : RoomState).apply (before ++ later) false := (RoomState.apply_append ..).symm
  rw [hx.fresh, hbase, hreload]

end RoomReader

/-! The small room of one member, whose level has been raised twice, and then a second member. The
homeserver now lists the second member first. -/

namespace RoomReader.SmallRoom

theorem settled_joining (user : String) : (joining user).Settled :=
  ⟨rfl, nofun, fun h => absurd h (by simp only [Event.eventType, joining]; decide)⟩

theorem settled_promoting (user : String) (level : Int64) : (promoting user level).Settled :=
  ⟨rfl, nofun, fun _ => rfl⟩

def beforeLoad : List Event :=
  [promoting "@alice:hs.one" 50, joining "@alice:hs.one", promoting "@alice:hs.one" 100]

def reloaded : InitialSync :=
  { state := [joining "@bob:hs.one", joining "@alice:hs.one", promoting "@alice:hs.one" 100] }

theorem chronicle_joined : Chronicle (beforeLoad ++ [joining "@bob:hs.one"]) := by
  refine ⟨?_, by decide⟩
  intro e he
  simp only [beforeLoad, List.cons_append, List.nil_append, List.mem_cons, List.not_mem_nil,
    or_false] at he
  rcases he with rfl | rfl | rfl | rfl
  · exact settled_promoting ..
  · exact settled_joining _
  · exact settled_promoting ..
  · exact settled_joining _

theorem compact_joined :
    reloaded.state.Perm (compact (beforeLoad ++ [joining "@bob:hs.one"])) :=
  (List.perm_append_singleton (joining "@bob:hs.one") _).symm

theorem state_of_reload :
    (({} : RoomState).apply (beforeLoad ++ [joining "@bob:hs.one"]) false).recalculate =
        (Room.ofSync room 0 reloaded).state ∧
      ofTwo.state = (Room.ofSync room 0 reloaded).state := by
  obtain ⟨hfold, hlive⟩ := reload_eq_live chronicle_joined compact_joined room 0
  exact ⟨hfold, hlive rfl (.refl _) load_ofOne run_ofTwo rfl rfl⟩

end RoomReader.SmallRoom
