import RoomReader.Proofs.State.Base
import RoomReader.Proofs.State.Fold
import RoomReader.Proofs.Timeline.Moves
import RoomReader.Proofs.Transcript

namespace RoomReader

/-!
# Where the state of a cached room comes from

A room is loaded with the state that the initial sync lists, and from then on newer events are the
only ones that its state takes in. The transcript of its calls tells which events these were, so at
any time the base of the state is the fold of them, and all else is derived from that base.
-/

/-- The events by which an answer changes the state of a room. -/
def Answered.stateEvents : Answered → List Event
  | ⟨.sync _ _, .ok sync⟩ => sync.state
  | ⟨.messages _ _ .forward _, .ok m⟩ => Timeline.kept m.chunk
  | _ => []

theorem Answered.stateEvents_error (c : Call) (e : ApiError) :
    Answered.stateEvents ⟨c, .error e⟩ = [] := by
  cases c with
  | messages room fromToken direction limit => cases direction <;> rfl
  | _ => rfl

namespace RoomState

/-- The state is what these events say, with everything derived. -/
structure Derives (s : RoomState) (events : List Event) : Prop where
  base : s.base = ({} : RoomState).apply events false
  fresh : s = s.base.recalculate

section

variable {s : RoomState} {events : List Event}

theorem derives_ofSync (room : String) (now : Time) (sync : InitialSync) :
    Derives (Room.ofSync room now sync).state sync.state := by
  have hbase : (Room.ofSync room now sync).state.base = ({} : RoomState).apply sync.state false := by
    rw [Room.ofSync, base_recalculate, base_apply, base_empty]
  refine ⟨hbase, ?_⟩
  rw [hbase]
  rfl

theorem Derives.foldForward (h : Derives s events) (m : Messages) :
    Derives (Timeline.foldForward s m) (events ++ Timeline.kept m.chunk) := by
  have hbase : (s.apply (Timeline.kept m.chunk) false).base =
      ({} : RoomState).apply (events ++ Timeline.kept m.chunk) false := by
    rw [base_apply, h.base, apply_append]
  unfold Timeline.foldForward
  cases hchunk : m.chunk with
  | nil =>
      -- An empty answer leaves the state as it is, without deriving anything anew.
      rw [Timeline.kept, List.filter_nil, List.append_nil]
      exact h
  | cons e rest =>
      rw [hchunk] at hbase
      refine ⟨?_, ?_⟩
      · exact (base_recalculate _).trans hbase
      · simp only [List.isEmpty_cons, Bool.false_eq_true, if_false, base_recalculate,
          recalculate_base]

/-- A derived state has every member under its user id, with its level in the power level table. -/
theorem Derives.member (h : Derives s events) {user : String} {m : Member}
    (hm : s.memberMap[user]? = some m) :
    m.userId = user ∧ m.powerLevel = s.powerLevels.userLevel user := by
  rw [h.fresh, getElem?_recalculate] at hm
  obtain ⟨known, hknown, rfl⟩ := Option.map_eq_some_iff.1 hm
  rw [h.base, getElem?_memberMap_apply, Std.ExtTreeMap.getElem?_empty] at hknown
  have huser : known.userId = user := Member.userId_of_foldl_take (by rintro m ⟨⟩) hknown
  exact ⟨huser, congrArg s.powerLevels.userLevel huser⟩

theorem Derives.roster (h : Derives s events) :
    s.roster = Roster.ofMaps s.memberMap s.aliasMap := by
  rw [h.fresh]
  rfl

end

end RoomState

namespace Timeline

variable {σ : Type} {hs : Homeserver σ} {room : String}
  {x y : Config (σ × List Answered)}

/-- Whatever happens at the homeserver, no answer is noted. -/
def Unnoted (s s' : σ × List Answered) : Prop := s'.2 = s.2

/-- Only an answer with newer events adds to what the state is derived from. -/
theorem derives_of_move (hx : x.state.Derives (x.server.2.flatMap Answered.stateEvents))
    (hmove : Move hs.recorded room Unnoted x y) :
    y.state.Derives (y.server.2.flatMap Answered.stateEvents) := by
  cases hmove with
  | older _ hc =>
      obtain ⟨-, htranscript⟩ := Homeserver.recorded_respond_eq_some.1 hc
      rw [htranscript, List.flatMap_append]
      simpa [Answered.stateEvents] using hx
  | newer hc =>
      obtain ⟨-, htranscript⟩ := Homeserver.recorded_respond_eq_some.1 hc
      rw [htranscript, List.flatMap_append, List.flatMap_singleton]
      exact hx.foldForward _
  | failed hc =>
      obtain ⟨-, htranscript⟩ := Homeserver.recorded_respond_eq_some.1 hc
      rw [htranscript, List.flatMap_append, List.flatMap_singleton, Answered.stateEvents_error,
        List.append_nil]
      exact hx
  | grown hsame =>
      rw [hsame]
      exact hx

theorem derives_of_run (hx : x.state.Derives (x.server.2.flatMap Answered.stateEvents))
    (hrun : Run hs.recorded room Unnoted x y) :
    y.state.Derives (y.server.2.flatMap Answered.stateEvents) := by
  replace hrun := moves_of_run hrun
  induction hrun with
  | refl => exact hx
  | tail _ hmove ih => exact derives_of_move ih hmove

/-- A load notes the sync that the room is made of. -/
theorem derives_of_load {settings : RoomSettings} {now : Time} {s : σ}
    {s' : σ × List Answered} {r : Room}
    (h : (Room.load settings now room).run hs.recorded (s, []) = (some (.ok r), s')) :
    r.state.Derives (s'.2.flatMap Answered.stateEvents) := by
  obtain ⟨reply, s₁, hc, h⟩ := Exchange.run_ask_eq_some.1 h
  obtain ⟨-, htranscript⟩ := Homeserver.recorded_respond_eq_some.1 hc
  cases reply with
  | error e => cases h
  | ok sync =>
      cases h
      rw [htranscript, List.nil_append, List.flatMap_singleton]
      exact RoomState.derives_ofSync room now sync

end Timeline

end RoomReader
