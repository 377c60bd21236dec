import Mathlib.Data.List.Induction
import RoomReader.Proofs.State.Base
import RoomReader.Proofs.State.Fold

namespace RoomReader

/-!
# The last writer wins

Out of an empty state a list of events makes what was written last, key by key: each text, the
power level table as a whole, the aliases of each server, and each value of each member. Events
that are no state, redactions, and payloads of another type or shape might as well be missing.
-/

namespace Member

variable (user : String) (contents : List MemberContent) (c : MemberContent)

/-- A member of whom nothing is known but these contents: of each value it has the last one. -/
def ofContents : Member where
  userId := user
  membership := (contents.filterMap (·.membership)).getLast?.getD "leave"
  displayName := (contents.filterMap (·.displayName)).getLast?
  avatarUrl := (contents.filterMap (·.avatarUrl)).getLast?
  powerLevel := 0

theorem ofContents_concat :
    ofContents user (contents ++ [c]) = (ofContents user contents).merge c := by
  simp [ofContents, merge]

theorem foldl_merge_unseen : contents.foldl merge (unseen user) = ofContents user contents := by
  induction contents using List.reverseRecOn with
  | nil => rfl
  | append_singleton contents c ih => rw [List.foldl_concat, ih, ofContents_concat]

/-- Leaving takes no name away. -/
example : ofContents "@alice:hs.one" [{ membership := some "join", displayName := some "Alice" },
    { membership := some "leave" }] =
      ⟨"@alice:hs.one", "leave", some "Alice", none, 0⟩ := by decide

end Member

namespace Event

/-- The contents that an event has for a user: its own, and with `usePrev` before it the previous
one, if that is the content of a member. -/
def said (e : Event) (user : String) (usePrev : Bool) : List MemberContent :=
  match e.content with
  | .member c =>
    if e.stateKey = some user then
      match usePrev, e.prevContent.bind MemberContent.ofJson? with
      | true, some previous => [previous, c]
      | _, _ => [c]
    else []
  | _ => []

/-- Whether an event is no state, or state that nothing is derived from. -/
def isIdle (e : Event) : Bool :=
  match e.stateKey, e.content with
  | none, _ => true
  | some _, .redaction _ => true
  | some _, .other _ _ => true
  | some _, _ => false

variable (e : Event) (user : String) (usePrev : Bool)

theorem contentsOf_eq_said : e.contentsOf user usePrev = e.said user usePrev := by
  unfold contentsOf said
  cases e.stateKey with
  | none => cases e.content <;> simp
  | some key =>
      cases hcontent : e.content with
      | member c =>
          have hprev : e.prevMember? = e.prevContent.bind MemberContent.ofJson? := by
            rw [prevMember?, hcontent]
          dsimp only
          rw [RoomState.memberContents, hprev]
          simp only [Option.some.injEq]
          cases usePrev <;> cases e.prevContent.bind MemberContent.ofJson? <;> rfl
      | _ => rfl

theorem said_ne_nil_iff :
    e.said user usePrev ≠ [] ↔ e.stateKey = some user ∧ ∃ c, e.content = .member c := by
  unfold said
  cases e.content with
  | member c =>
      by_cases hkey : e.stateKey = some user
      · dsimp only
        rw [if_pos hkey]
        cases usePrev <;> cases e.prevContent.bind MemberContent.ofJson? <;> simp [hkey]
      · simp [hkey]
  | _ => simp

end Event

namespace RoomState

/-- Every part of a state is what the last of the events wrote that wrote there. -/
structure LastWritten (s : RoomState) (events : List Event) (usePrev : Bool) : Prop where
  text : ∀ field, s.text field = (events.filterMap (·.text? field)).getLast?
  levels : s.powerLevels = (events.filterMap Event.levels?).getLast?.getD {}
  aliases : ∀ server : String,
    s.aliasMap[server]? = (events.filterMap (·.aliasesOf? server)).getLast?
  mem_members : ∀ user, user ∈ s.memberMap ↔
    ∃ e ∈ events, e.stateKey = some user ∧ ∃ c, e.content = .member c
  member : ∀ (user : String) m, s.memberMap[user]? = some m →
    m = Member.ofContents user (events.flatMap (·.said user usePrev))
  roster : s.roster = {}

variable (events : List Event) (usePrev : Bool) (user : String)

theorem applyEvent_of_isIdle (s : RoomState) {e : Event} (h : e.isIdle = true) :
    s.applyEvent e usePrev = s := by
  unfold applyEvent
  unfold Event.isIdle at h
  split at h <;> simp_all

theorem getElem?_memberMap_apply_empty :
    (({} : RoomState).apply events usePrev).memberMap[user]? =
      if events.flatMap (·.said user usePrev) = [] then none
      else some (Member.ofContents user (events.flatMap (·.said user usePrev))) := by
  rw [getElem?_memberMap_apply, Std.ExtTreeMap.getElem?_empty]
  simp only [Event.contentsOf_eq_said]
  split
  · rename_i hnil
    rw [hnil]
    rfl
  · rename_i hne
    rw [Member.foldl_take user none hne]
    exact congrArg some (Member.foldl_merge_unseen ..)

theorem flatMap_said_ne_nil_iff :
    events.flatMap (·.said user usePrev) ≠ [] ↔
      ∃ e ∈ events, e.stateKey = some user ∧ ∃ c, e.content = .member c := by
  simp only [Ne, List.flatMap_eq_nil_iff, not_forall, exists_prop]
  exact exists_congr fun e => and_congr_right fun _ => e.said_ne_nil_iff user usePrev

end RoomState

/-- A state that was empty is what was written last, and so it is without the idle events. -/
theorem fold_is_last_written (events : List Event) (usePrev : Bool) :
    (({} : RoomState).apply events usePrev).LastWritten events usePrev ∧
      ∀ s : RoomState, s.apply (events.filter (! ·.isIdle)) usePrev = s.apply events usePrev := by
  refine ⟨⟨?_, ?_, ?_, ?_, ?_, RoomState.roster_apply ..⟩, ?_⟩
  · intro field
    rw [RoomState.text_apply]
    cases field <;> exact Option.or_none
  · have hlevels := RoomState.powerLevels_apply {} events usePrev
    rw [Option.or_some] at hlevels
    exact Option.some.inj hlevels
  · intro server
    rw [RoomState.getElem?_aliasMap_apply, Std.ExtTreeMap.getElem?_empty, Option.or_none]
  · intro user
    rw [← RoomState.flatMap_said_ne_nil_iff events usePrev user,
      Std.ExtTreeMap.mem_iff_isSome_getElem?, RoomState.getElem?_memberMap_apply_empty]
    split <;> simp_all
  · intro user m hm
    rw [RoomState.getElem?_memberMap_apply_empty] at hm
    split at hm
    · cases hm
    · exact (Option.some.inj hm).symm
  · intro s
    refine RoomState.apply_filter s events usePrev fun e s hidle => ?_
    exact RoomState.applyEvent_of_isIdle usePrev s (by simpa using hidle)

end RoomReader
