import RoomReader.Pool.Worker
import RoomReader.Proofs.Exchange
import RoomReader.Proofs.Projection

namespace RoomReader

/-!
# Which calls are made for a room

Whatever is done with a room asks the homeserver about that room alone, and a job puts back no other
room than its own.
-/

def Call.room? : Call → Option String
  | sync room _ => some room
  | messages room .. => some room
  | publicRooms => none
  | resolveAlias _ => none

abbrev Call.About (room : String) (c : Call) : Prop := c.room? = some room

namespace Timeline

variable (t : Timeline) (room : String)

theorem within_backpaginate (amount : Nat) :
    (t.backpaginate room amount).Within (Call.About room) fun _ => True := by
  refine .ask rfl fun answer => ?_
  cases answer <;> exact .done trivial

theorem within_forwardPaginate (s : RoomState) :
    (t.forwardPaginate room s).Within (Call.About room) fun _ => True := by
  refine .ask rfl fun answer => ?_
  cases answer <;> exact .done trivial

theorem within_findAnchor (anchor : String) :
    (t.findAnchor room anchor).Within (Call.About room) fun _ => True := by
  unfold findAnchor
  split
  · exact .done trivial
  · split
    · exact .done trivial
    · refine (t.within_backpaginate room anchorBackfill).bind fun p _ => ?_
      obtain ⟨e | n, t'⟩ := p <;> exact .done trivial

theorem within_anchorIndex (anchor : String) :
    (t.anchorIndex room anchor).Within (Call.About room) fun _ => True := by
  unfold anchorIndex
  split
  · exact .done trivial
  · refine (t.within_findAnchor room anchor).bind fun p _ => ?_
    obtain ⟨e | _ | i, t'⟩ := p <;> exact .done trivial

theorem within_reach (wanted : Nat) :
    (t.reach room wanted).Within (Call.About room) fun _ => True := by
  unfold reach
  split
  · exact (t.within_backpaginate room (wanted - t.length)).bind fun _ _ => .done trivial
  · exact .done trivial

theorem within_getPage (anchor : String) (offset : Int) (pageSize : Nat) :
    (t.getPage room anchor offset pageSize).Within (Call.About room) fun _ => True := by
  unfold getPage
  refine (t.within_anchorIndex room anchor).bind fun p _ => ?_
  obtain ⟨e | index, t'⟩ := p
  · exact .done trivial
  · dsimp only
    split
    · exact (t'.within_reach room (wanted index offset.toNat pageSize)).bind
        fun _ _ => .done trivial
    · exact .done trivial

end Timeline

namespace Room

theorem within_load (settings : RoomSettings) (now : Time) (id : String) :
    (load settings now id).Within (Call.About id) fun r => ∀ r', r = .ok r' → r'.id = id := by
  refine .ask rfl fun answer => ?_
  cases answer with
  | error e =>
      refine .done fun r' h => ?_
      cases h
  | ok sync =>
      refine .done fun r' h => ?_
      cases h
      rfl

theorem within_getPage (now : Time) (anchor : String) (offset : Int) (pageSize : Nat) (r : Room) :
    (r.getPage now anchor offset pageSize).Within (Call.About r.id) fun p => p.2.id = r.id := by
  unfold getPage
  refine (r.timeline.within_getPage r.id anchor offset pageSize).bind fun p _ => ?_
  obtain ⟨page, t⟩ := p
  exact .done rfl

theorem within_forwardPaginate (r : Room) :
    r.forwardPaginate.Within (Call.About r.id) fun p => p.2.id = r.id := by
  unfold forwardPaginate
  refine (r.timeline.within_forwardPaginate r.id r.state).bind fun p _ => ?_
  obtain ⟨received, t, s⟩ := p
  exact .done rfl

end Room

namespace Worker

variable {w : Worker} {settings : RoomSettings} {now : Time}

/-- Every room is held under its own id. -/
def Filed (w : Worker) : Prop := ∀ room (r : Room), w.rooms[room]? = some r → r.id = room

/-- Nothing was changed but one room. -/
def Changed (room : String) (w w' : Worker) : Prop :=
  w' = w ∨ ∃ r : Room, r.id = room ∧ w' = { w with rooms := w.rooms.insert room r }

theorem changed_withRoom {α : Type} (hw : w.Filed) (now : Time) (room : String)
    (view : Room → α) :
    Changed room w (w.withRoom now room view).2 := by
  unfold withRoom
  split
  · exact .inl rfl
  · rename_i r hr
    exact .inr ⟨r.access now, hw room r hr, rfl⟩

theorem changed_memberInfo (hw : w.Filed) (room user : String) :
    Changed room w (w.memberInfo settings now room user).2 := by
  have hview := changed_withRoom hw now room (memberReply? settings user)
  unfold memberInfo
  split <;> simp_all only

/-- A job asks about its room alone, and changes no other. -/
theorem within_handle (hw : w.Filed) (job : Job) :
    (w.handle settings now job).Within (Call.About job.room) fun p => Changed job.room w p.2 := by
  cases job with
  | initialSync room =>
      simp only [handle, initialSync]
      split
      · rename_i r hr
        exact .done (.inr ⟨r.access now, hw room r hr, rfl⟩)
      · refine (Room.within_load settings now room).bind fun r hr => ?_
        cases r with
        | error e => exact .done (.inl rfl)
        | ok r => exact .done (.inr ⟨r, hr r rfl, rfl⟩)
  | eventsPage room anchor offset pageSize =>
      simp only [handle, eventsPage]
      split
      · exact .done (.inl rfl)
      · rename_i r hr
        have hid : r.id = room := hw _ _ hr
        have hpage := r.within_getPage now anchor offset pageSize
        rw [hid] at hpage
        exact hpage.bind fun p hp => .done (.inr ⟨p.2, hp, rfl⟩)
  | members room page pageSize => exact .done (changed_withRoom hw now room _)
  | servers room page pageSize => exact .done (changed_withRoom hw now room _)
  | aliases room page pageSize => exact .done (changed_withRoom hw now room _)
  | memberInfo room user => exact .done (changed_memberInfo hw room user)
  | powerLevels room => exact .done (changed_withRoom hw now room _)

end Worker

end RoomReader
