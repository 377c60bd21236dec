import RoomReader.Proofs.Pool.Slot

namespace RoomReader

/-!
# Workers and slots agree

A worker agrees with a slot if both hold the slot's room alike, up to the time of its last access,
or both do not hold it. They agree after all that is done to both, and what is done to other rooms
of the worker does not show in the slot.
-/

/-- The same room twice, but for its access times. -/
inductive SameRoom : Option Room → Option Room → Prop
  | none : SameRoom none none
  | some (r : Room) (now : Time) : SameRoom (some r) (some (r.access now))

/-- A worker that files its rooms holds this one as the slot does. -/
structure Agrees (room : String) (w v : Worker) : Prop where
  filed : w.Filed
  same : SameRoom w.rooms[room]? v.rooms[room]?

section

variable {w v : Worker} {room other : String} {r : Room} {settings : RoomSettings} {now : Time}

theorem Worker.Filed.insert (hw : w.Filed) (hr : r.id = room) :
    Worker.Filed { w with rooms := w.rooms.insert room r } := by
  intro other r' h
  by_cases hroom : room = other
  · subst hroom
    rw [Std.ExtTreeMap.getElem?_insert_self] at h
    cases h
    exact hr
  · rw [StringMap.getElem?_insert, if_neg hroom] at h
    exact hw other r' h

theorem Agrees.cases (h : Agrees room w v) :
    (w.rooms[room]? = none ∧ v.rooms[room]? = none) ∨
      ∃ r now, w.rooms[room]? = some r ∧ v.rooms[room]? = some (r.access now) ∧ r.id = room := by
  have hsame := h.same
  cases hw : w.rooms[room]? with
  | none =>
      rw [hw] at hsame
      cases hv : v.rooms[room]? with
      | none => exact .inl ⟨rfl, rfl⟩
      | some r' =>
          rw [hv] at hsame
          cases hsame
  | some r =>
      right
      rw [hw] at hsame
      generalize v.rooms[room]? = y at hsame
      cases hsame with
      | some r now => exact ⟨r, now, rfl, rfl, h.filed room r hw⟩

theorem agrees_of_eq_none (hw : w.Filed) (hroom : w.rooms[room]? = none)
    (hv : v.rooms[room]? = none) : Agrees room w v := by
  refine ⟨hw, ?_⟩
  rw [hroom, hv]
  exact .none

theorem Agrees.insert {r' : Room} (h : Agrees room w v) (hr : r.id = room)
    (hsame : SameRoom (some r) (some r')) :
    Agrees room { w with rooms := w.rooms.insert room r }
      { v with rooms := v.rooms.insert room r' } := by
  refine ⟨h.filed.insert hr, ?_⟩
  rw [Std.ExtTreeMap.getElem?_insert_self, Std.ExtTreeMap.getElem?_insert_self]
  exact hsame

theorem Agrees.insert_of_ne (h : Agrees room w v) (hr : r.id = other) (hother : other ≠ room) :
    Agrees room { w with rooms := w.rooms.insert other r } v := by
  refine ⟨h.filed.insert hr, ?_⟩
  rw [StringMap.getElem?_insert, if_neg hother]
  exact h.same

theorem Agrees.of_changed {w' : Worker} (h : Agrees room w v) (hother : other ≠ room)
    (hw' : Worker.Changed other w w') : Agrees room w' v := by
  rcases hw' with rfl | ⟨r, hr, rfl⟩
  · exact h
  · exact h.insert_of_ne hr hother

/-! ## What is done with the room -/

/-- The same result, and the room is the same after it. -/
def SamePart {α : Type} (room : String) (p q : α × Room) : Prop :=
  p.1 = q.1 ∧ p.2.id = room ∧ SameRoom (some p.2) (some q.2)

theorem shows_getPage (r : Room) (now seen : Time) (anchor : String) (offset : Int)
    (pageSize : Nat) :
    (r.getPage now anchor offset pageSize).Shows (Call.About r.id) (SamePart r.id)
      ((r.access seen).getPage 0 anchor offset pageSize) := by
  have hpage := (r.timeline.within_getPage r.id anchor offset pageSize).shows_self
  unfold Room.getPage
  refine hpage.bind ?_
  rintro ⟨page, t⟩ _ ⟨rfl, -⟩
  exact .done ⟨rfl, rfl, .some _ 0⟩

theorem shows_forwardPaginate (r : Room) (seen : Time) :
    r.forwardPaginate.Shows (Call.About r.id) (SamePart r.id)
      (r.access seen).forwardPaginate := by
  have hforward := (r.timeline.within_forwardPaginate r.id r.state).shows_self
  unfold Room.forwardPaginate
  refine hforward.bind ?_
  rintro ⟨received, t, s⟩ _ ⟨rfl, -⟩
  exact .done ⟨rfl, rfl, .some _ seen⟩

/-! ## Jobs -/

/-- The same result, and the workers agree after it. -/
def SameResult {α : Type} (room : String) (p q : α × Worker) : Prop :=
  p.1 = q.1 ∧ Agrees room p.2 q.2

theorem sameResult_withRoom {α : Type} (h : Agrees room w v) (now : Time) {view : Room → α}
    (hview : ∀ r now, view (r.access now) = view r) :
    SameResult room (w.withRoom now room view) (v.withRoom 0 room view) := by
  unfold Worker.withRoom
  rcases h.cases with ⟨hw, hv⟩ | ⟨r, seen, hw, hv, hr⟩
  · rw [hw, hv]
    exact ⟨rfl, h⟩
  · rw [hw, hv]
    exact ⟨congrArg Except.ok (hview r seen).symm, h.insert hr (.some (r.access now) 0)⟩

theorem sameResult_memberInfo (h : Agrees room w v) (user : String) :
    SameResult room (w.memberInfo settings now room user) (v.memberInfo settings 0 room user) := by
  have hview (r : Room) (now : Time) : Worker.memberReply? settings user (r.access now) =
      Worker.memberReply? settings user r := rfl
  obtain ⟨hresult, hagrees⟩ := sameResult_withRoom h now hview
  unfold Worker.memberInfo
  generalize w.withRoom now room _ = p at *
  generalize v.withRoom 0 room _ = q at *
  obtain ⟨result, w'⟩ := p
  obtain ⟨result', v'⟩ := q
  cases hresult
  rcases result with e | _ | reply <;> exact ⟨rfl, hagrees⟩

theorem shows_initialSync (h : Agrees room w v) :
    (w.initialSync settings now room).Shows (Call.About room) (SameResult room)
      (v.initialSync settings 0 room) := by
  unfold Worker.initialSync
  rcases h.cases with ⟨hw, hv⟩ | ⟨r, seen, hw, hv, hr⟩
  · rw [hw, hv]
    refine .own rfl fun answer => ?_
    cases answer with
    | error e => exact .done ⟨rfl, h⟩
    | ok sync => exact .done ⟨rfl, h.insert rfl (.some (.ofSync room now sync) 0)⟩
  · rw [hw, hv]
    exact .done ⟨rfl, h.insert hr (.some (r.access now) 0)⟩

theorem shows_eventsPage (h : Agrees room w v) (anchor : String) (offset : Int) (pageSize : Nat) :
    (w.eventsPage settings now room anchor offset pageSize).Shows (Call.About room)
      (SameResult room) (v.eventsPage settings 0 room anchor offset pageSize) := by
  unfold Worker.eventsPage
  rcases h.cases with ⟨hw, hv⟩ | ⟨r, seen, hw, hv, hr⟩
  · rw [hw, hv]
    exact .done ⟨rfl, h⟩
  · rw [hw, hv]
    subst hr
    refine (shows_getPage r now seen anchor offset pageSize).bind ?_
    rintro ⟨page, r'⟩ ⟨page', r''⟩ ⟨hpage, hid, hsame⟩
    cases hpage
    refine .done ⟨?_, h.insert hid hsame⟩
    cases hsame
    rfl

/-- A job on the room is done alike by both. -/
theorem shows_handle {job : Job} (h : Agrees job.room w v) :
    (w.handle settings now job).Shows (Call.About job.room) (SameResult job.room)
      (v.handle settings 0 job) := by
  cases job with
  | initialSync room => exact shows_initialSync h
  | eventsPage room anchor offset pageSize => exact shows_eventsPage h anchor offset pageSize
  | members room page pageSize => exact .done (sameResult_withRoom h now fun _ _ => rfl)
  | servers room page pageSize => exact .done (sameResult_withRoom h now fun _ _ => rfl)
  | aliases room page pageSize => exact .done (sameResult_withRoom h now fun _ _ => rfl)
  | memberInfo room user => exact .done (sameResult_memberInfo h user)
  | powerLevels room => exact .done (sameResult_withRoom h now fun _ _ => rfl)

theorem Call.About.ne {c : Call} (hc : c.About other) (hother : other ≠ room) : ¬ c.About room :=
  fun hroom => hother (Option.some.inj (hc.symm.trans hroom))

/-- A job on another room does not show. -/
theorem within_handle_of_ne {job : Job} (h : Agrees room w v) (hjob : job.room ≠ room) :
    (w.handle settings now job).Within (fun c => ¬ c.About room) fun p => Agrees room p.2 v :=
  (Worker.within_handle h.filed job).mono (fun _ hc => hc.ne hjob) fun _ hw => h.of_changed hjob hw

/-! ## Sweeps -/

theorem getElem?_foldl_erase (dropped : List String) (m : StringMap Room) :
    (dropped.foldl (fun m room => m.erase room) m)[room]? =
      if room ∈ dropped then none else m[room]? := by
  induction dropped generalizing m with
  | nil => simp
  | cons other dropped ih =>
      rw [List.foldl_cons, ih]
      by_cases hother : other = room
      · simp [hother]
      · simp [Std.ExtTreeMap.getElem?_erase, hother, Ne.symm hother]

theorem evictStale_eq_none_or_eq (rule : SweepRule) (now : Time) (w : Worker) (room : String) :
    (w.evictStale rule now).2.rooms[room]? = none ∨
      (w.evictStale rule now).2.rooms[room]? = w.rooms[room]? := by
  unfold Worker.evictStale
  split
  · exact .inr rfl
  · rw [getElem?_foldl_erase]
    split
    · exact .inl rfl
    · exact .inr rfl

theorem Worker.Filed.evictStale (hw : w.Filed) (rule : SweepRule) (now : Time) :
    (w.evictStale rule now).2.Filed := by
  intro room r h
  rcases evictStale_eq_none_or_eq rule now w room with hnone | heq
  · rw [hnone] at h
    cases h
  · exact hw room r (heq.symm.trans h)

theorem within_forwardPaginate_of_ne (hr : r.id ≠ room) :
    r.forwardPaginate.Within (fun c => ¬ c.About room) fun p => p.2.id = r.id :=
  r.within_forwardPaginate.mono (fun _ hc => hc.ne hr) fun _ hp => hp

theorem within_forwardAll_of_notMem {rooms : List String} (h : Agrees room w v)
    (hroom : room ∉ rooms) (failures : Nat) :
    (Worker.forwardAll rooms (failures, w)).Within (fun c => ¬ c.About room)
      fun p => Agrees room p.2 v := by
  induction rooms generalizing w failures with
  | nil => exact .done h
  | cons other rooms ih =>
      obtain ⟨hother, hrest⟩ := List.ne_and_not_mem_of_not_mem_cons hroom
      unfold Worker.forwardAll
      split
      · exact ih h hrest failures
      · rename_i r hr
        have hid : r.id = other := h.filed other r hr
        refine (within_forwardPaginate_of_ne (hid ▸ hother.symm)).bind ?_
        rintro ⟨received, r'⟩ hr'
        exact ih (h.insert_of_ne (hr'.trans hid) hother.symm) hrest _

/-- Of all rooms that take in what is new, one shows. -/
theorem shows_forwardAll {rooms : List String} (h : Agrees room w v) (hroom : room ∈ rooms)
    (hrooms : rooms.Nodup) (failures : Nat) :
    (Worker.forwardAll rooms (failures, w)).Shows (Call.About room)
      (fun p q => Agrees room p.2 q.2) (Worker.forwardAll [room] (0, v)) := by
  induction rooms generalizing w failures with
  | nil => cases hroom
  | cons other rooms ih =>
      obtain ⟨hother, hrest⟩ := List.nodup_cons.1 hrooms
      by_cases heq : other = room
      · subst heq
        unfold Worker.forwardAll
        rcases h.cases with ⟨hw, hv⟩ | ⟨r, seen, hw, hv, hr⟩
        · rw [hw, hv]
          exact (within_forwardAll_of_notMem h hother failures).shows_done fun _ hp => hp
        · rw [hw, hv]
          subst hr
          refine (shows_forwardPaginate r seen).bind ?_
          rintro ⟨received, r'⟩ ⟨received', r''⟩ ⟨-, hid, hsame⟩
          have hwithin := within_forwardAll_of_notMem (h.insert hid hsame) hother
          exact (hwithin _).shows_done fun _ hp => hp
      · have hmem : room ∈ rooms := (List.mem_cons.1 hroom).resolve_left (Ne.symm heq)
        unfold Worker.forwardAll
        split
        · exact ih h hmem hrest failures
        · rename_i r hr
          have hid : r.id = other := h.filed other r hr
          refine (within_forwardPaginate_of_ne (hid ▸ heq)).bind_shows ?_
          rintro ⟨received, r'⟩ hr'
          exact ih (h.insert_of_ne (hr'.trans hid) heq) hmem hrest _

theorem Agrees.shows_forwardAll_keys (h : Agrees room w v) (failures : Nat) :
    (Worker.forwardAll w.rooms.keys (failures, w)).Shows (Call.About room)
      (fun p q => Agrees room p.2 q.2) (Worker.forwardAll [room] (0, v)) := by
  by_cases hroom : room ∈ w.rooms.keys
  · exact shows_forwardAll h hroom Std.ExtTreeMap.nodup_keys failures
  · have hw : w.rooms[room]? = none :=
      Std.ExtTreeMap.getElem?_eq_none fun hmem => hroom (Std.ExtTreeMap.mem_keys.2 hmem)
    have hv : v.rooms[room]? = none := by
      rcases h.cases with ⟨-, hv⟩ | ⟨r, now, hr, -⟩
      · exact hv
      · rw [hw] at hr
        cases hr
    have hdone : Worker.forwardAll [room] (0, v) = .done (0, v) := by
      simp only [Worker.forwardAll, hv, Exchange.pure_eq_done]
    rw [hdone]
    exact (within_forwardAll_of_notMem h hroom failures).shows_done fun _ hp => hp

end

end RoomReader
