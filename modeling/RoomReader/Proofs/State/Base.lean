import RoomReader.Room.State

namespace RoomReader

/-!
# What a state is derived from

The base of a state is what events write: its texts, its power level table, its members without
their levels, and its aliases. Levels and roster are derived from it. Events act on the base alone,
and deriving anew shows nothing of what was derived before.
-/

def Member.atLevel (level : Int64) (m : Member) : Member := { m with powerLevel := level }

theorem Member.foldl_merge_atLevel (contents : List MemberContent) (level : Int64) (m : Member) :
    contents.foldl merge (m.atLevel level) = (contents.foldl merge m).atLevel level := by
  induction contents generalizing m with
  | nil => rfl
  | cons c contents ih => exact ih (m.merge c)

namespace RoomState

/-- The state before anything is derived: no member has its level yet, and there is no roster. -/
def base (s : RoomState) : RoomState :=
  { s with memberMap := s.memberMap.map fun _ m => m.atLevel 0, roster := {} }

theorem getElem?_base (s : RoomState) (user : String) :
    s.base.memberMap[user]? = s.memberMap[user]?.map (Member.atLevel 0) :=
  Std.ExtTreeMap.getElem?_map

theorem getElem?_recalculate (s : RoomState) (user : String) :
    s.recalculate.memberMap[user]? =
      s.memberMap[user]?.map fun m => m.atLevel (s.powerLevels.userLevel m.userId) :=
  Std.ExtTreeMap.getElem?_map

@[simp] theorem base_empty : base {} = {} := by
  have hnone : (∅ : StringMap Member).map (fun _ m => m.atLevel 0) = ∅ := by
    apply Std.ExtTreeMap.ext_getElem?
    intro user
    simp
  simp only [base, hnone]

theorem base_recalculate (s : RoomState) : s.recalculate.base = s.base := by
  have hmembers : s.recalculate.base.memberMap = s.base.memberMap := by
    apply Std.ExtTreeMap.ext_getElem?
    intro user
    rw [getElem?_base, getElem?_recalculate, getElem?_base, Option.map_map]
    rfl
  exact congrArg (fun members => { s.base with memberMap := members }) hmembers

theorem recalculate_base (s : RoomState) : s.base.recalculate = s.recalculate := by
  have hmembers : s.base.recalculate.memberMap = s.recalculate.memberMap := by
    apply Std.ExtTreeMap.ext_getElem?
    intro user
    rw [getElem?_recalculate, getElem?_base, getElem?_recalculate, Option.map_map]
    rfl
  exact congrArg
    (fun members => { s with memberMap := members, roster := Roster.ofMaps members s.aliasMap })
    hmembers

theorem base_applyEvent (s : RoomState) (e : Event) (usePrev : Bool) :
    (s.applyEvent e usePrev).base = s.base.applyEvent e usePrev := by
  unfold applyEvent
  cases e.stateKey with
  | none => rfl
  | some key =>
      cases e.content with
      | aliases c =>
          dsimp only
          split <;> rfl
      | member c =>
          -- Neither the contents nor the other members depend on the levels.
          have hknown : s.base.memberMap[key]?.getD (Member.unseen key) =
              (s.memberMap[key]?.getD (Member.unseen key)).atLevel 0 := by
            rw [getElem?_base]
            cases s.memberMap[key]? <;> rfl
          dsimp only
          rw [hknown, Member.foldl_merge_atLevel]
          exact congrArg (fun members => { s.base with memberMap := members })
            (StringMap.map_insert ..)
      | _ => rfl

theorem base_apply (s : RoomState) (events : List Event) (usePrev : Bool) :
    (s.apply events usePrev).base = s.base.apply events usePrev := by
  induction events generalizing s with
  | nil => rfl
  | cons e events ih =>
      have hcons := ih (s.applyEvent e usePrev)
      rw [base_applyEvent] at hcons
      exact hcons

theorem apply_append (s : RoomState) (events later : List Event) (usePrev : Bool) :
    s.apply (events ++ later) usePrev = (s.apply events usePrev).apply later usePrev :=
  List.foldl_append ..

theorem recalculate_recalculate (s : RoomState) : s.recalculate.recalculate = s.recalculate := by
  rw [← recalculate_base s.recalculate, base_recalculate, recalculate_base]

end RoomState

end RoomReader
