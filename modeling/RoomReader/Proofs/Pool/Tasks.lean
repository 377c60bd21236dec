import RoomReader.Proofs.Pool.Agreement
import RoomReader.Proofs.Pool.Labour

namespace RoomReader

/-!
# What a task does to the rooms of a worker

A job changes its own room and no other. It stamps the room with its time if the worker holds it in
the end, and it makes an initial sync only for a room that is not held. A sweep drops rooms, and the
others keep their times.
-/

def Call.synced? : Call → Option String
  | sync room _ => some room
  | _ => none

theorem RoomError.ofApi_ne_notLoaded (room other : String) (e : ApiError) :
    ofApi room e ≠ notLoaded other := by
  unfold ofApi
  split <;> nofun

def Loaded {α : Type} (result : Except RoomError α) : Prop :=
  ∀ room, result ≠ .error (.notLoaded room)

theorem loaded_ok {α : Type} (a : α) : Loaded (.ok a) := by
  rintro room ⟨⟩

theorem Timeline.loaded_anchorIndex (t : Timeline) (room anchor : String) :
    (t.anchorIndex room anchor).Within (fun c => c.synced? = none) fun p => Loaded p.1 := by
  have hfind : (t.findAnchor room anchor).Within (fun c => c.synced? = none) fun _ => True := by
    unfold findAnchor
    split
    · exact .done trivial
    · split
      · exact .done trivial
      · refine .ask rfl fun answer => ?_
        cases answer <;> exact .done trivial
  unfold anchorIndex
  split
  · exact .done nofun
  · refine hfind.bind fun p _ => ?_
    obtain ⟨e | _ | i, t'⟩ := p
    · refine .done fun other h => RoomError.ofApi_ne_notLoaded room other e ?_
      exact Except.error.inj h
    · exact .done nofun
    · exact .done nofun

theorem Timeline.loaded_getPage (t : Timeline) (room anchor : String) (offset : Int)
    (pageSize : Nat) :
    (t.getPage room anchor offset pageSize).Within (fun c => c.synced? = none)
      fun p => Loaded p.1 := by
  have hreach (t : Timeline) (wanted : Nat) :
      (t.reach room wanted).Within (fun c => c.synced? = none) fun _ => True := by
    unfold reach
    split
    · refine .ask rfl fun answer => ?_
      cases answer <;> exact .done trivial
    · exact .done trivial
  unfold getPage
  refine (t.loaded_anchorIndex room anchor).bind fun p hp => ?_
  obtain ⟨e | index, t'⟩ := p
  · exact .done fun other h => hp other (congrArg Except.error (Except.error.inj h))
  · dsimp only
    split
    · exact (hreach t' _).bind fun _ _ => .done nofun
    · exact .done nofun

theorem Room.loaded_getPage (now : Time) (anchor : String) (offset : Int) (pageSize : Nat)
    (r : Room) :
    (r.getPage now anchor offset pageSize).Within (fun c => c.synced? = none)
      fun p => Loaded p.1 ∧ p.2.lastAccess = now := by
  unfold getPage
  exact (r.timeline.loaded_getPage r.id anchor offset pageSize).bind fun p hp => .done ⟨hp, rfl⟩

namespace Worker

variable {w : Worker} {settings : RoomSettings} {now : Time} {job : Job}

theorem mem_rooms_of_getElem? {room : String} {r : Room} (hr : w.rooms[room]? = some r) :
    room ∈ w.rooms :=
  Std.ExtTreeMap.mem_iff_isSome_getElem?.2 (hr ▸ rfl)

theorem notMem_rooms_of_getElem? {room : String} (hr : w.rooms[room]? = none) :
    room ∉ w.rooms := by
  rw [Std.ExtTreeMap.mem_iff_isSome_getElem?, hr]
  nofun

/-- What a job comes to. -/
structure Served (now : Time) (job : Job) (w : Worker) (p : Except RoomError job.Reply × Worker) :
    Prop where
  other : ∀ room, room ≠ job.room → p.2.rooms[room]? = w.rooms[room]?
  stamped : ∀ r, p.2.rooms[job.room]? = some r → r.lastAccess = now
  kept : job.room ∈ w.rooms → job.room ∈ p.2.rooms ∧ Loaded p.1
  held : ∀ reply, p.1 = .ok reply → job.room ∈ p.2.rooms
  unchanged : job.room ∉ w.rooms → ∀ e, p.1 = .error e → p.2 = w
  failed : ∀ e, p.1 = .error e → job = .initialSync job.room → job.room ∉ w.rooms

theorem served_error (hroom : job.room ∉ w.rooms) (e : RoomError) :
    Served now job w (.error e, w) := by
  refine ⟨fun _ _ => rfl, ?_, fun h => absurd h hroom, nofun, fun _ _ _ => rfl, fun _ _ _ => hroom⟩
  intro r hr
  exact absurd (mem_rooms_of_getElem? hr) hroom

theorem served_insert {r : Room} {result : Except RoomError job.Reply} (hr : r.lastAccess = now)
    (hloaded : Loaded result)
    (hheld : job.room ∈ w.rooms ∧ job ≠ .initialSync job.room ∨ ∃ reply, result = .ok reply) :
    Served now job w (result, { w with rooms := w.rooms.insert job.room r }) := by
  have hmem : job.room ∈ w.rooms.insert job.room r := Std.ExtTreeMap.mem_insert_self
  refine ⟨?_, ?_, fun _ => ⟨hmem, hloaded⟩, fun _ _ => hmem, ?_, ?_⟩
  · intro room hroom
    exact (StringMap.getElem?_insert ..).trans (if_neg (Ne.symm hroom))
  · intro r' hr'
    rw [Std.ExtTreeMap.getElem?_insert_self] at hr'
    cases hr'
    exact hr
  · rintro hroom e rfl
    rcases hheld with ⟨hmem, -⟩ | ⟨reply, hreply⟩
    · exact absurd hmem hroom
    · cases hreply
  · rintro e rfl hjob
    rcases hheld with ⟨-, hne⟩ | ⟨reply, hreply⟩
    · exact absurd hjob hne
    · cases hreply

theorem served_withRoom (view : Room → job.Reply) :
    Served now job w (w.withRoom now job.room view) := by
  unfold withRoom
  split
  · exact served_error (notMem_rooms_of_getElem? ‹_›) _
  · exact served_insert rfl (loaded_ok _) (.inr ⟨_, rfl⟩)

theorem served_memberInfo (room user : String) :
    Served now (.memberInfo room user) w (w.memberInfo settings now room user) := by
  unfold memberInfo withRoom
  cases hr : w.rooms[room]? with
  | none => exact served_error (notMem_rooms_of_getElem? hr) _
  | some r =>
      have hheld : (Job.memberInfo room user).room ∈ w.rooms := mem_rooms_of_getElem? hr
      dsimp only
      cases memberReply? settings user r with
      | none => exact served_insert rfl nofun (.inl ⟨hheld, nofun⟩)
      | some reply => exact served_insert rfl (loaded_ok reply) (.inr ⟨reply, rfl⟩)

/-- The only initial sync that a job may make is one for its own room, if that is not held. -/
def MaySync (w : Worker) (job : Job) (c : Call) : Prop :=
  ∀ room, c.synced? = some room → room = job.room ∧ room ∉ w.rooms

theorem maySync_of_eq_none {c : Call} (hc : c.synced? = none) : w.MaySync job c := by
  intro room hroom
  rw [hc] at hroom
  cases hroom

theorem served_handle (settings : RoomSettings) (now : Time) (w : Worker) (job : Job) :
    (w.handle settings now job).Within (w.MaySync job) (Served now job w) := by
  cases job with
  | initialSync room =>
      simp only [handle, initialSync]
      cases hr : w.rooms[room]? with
      | none =>
          have hroom : room ∉ w.rooms := notMem_rooms_of_getElem? hr
          have hsync : w.MaySync (.initialSync room) (.sync room settings.syncLimit) := by
            rintro _ ⟨⟩
            exact ⟨rfl, hroom⟩
          refine .ask hsync fun answer => ?_
          cases answer with
          | error e => exact .done (served_error hroom _)
          | ok sync => exact .done (served_insert rfl (loaded_ok ()) (.inr ⟨(), rfl⟩))
      | some r => exact .done (served_insert rfl (loaded_ok ()) (.inr ⟨(), rfl⟩))
  | eventsPage room anchor offset pageSize =>
      simp only [handle, eventsPage]
      cases hr : w.rooms[room]? with
      | none => exact .done (served_error (notMem_rooms_of_getElem? hr) _)
      | some r =>
          refine ((r.loaded_getPage now anchor offset pageSize).mono
            (fun _ hc => maySync_of_eq_none hc) fun _ hp => hp).bind ?_
          rintro ⟨page, r'⟩ ⟨hloaded, haccess⟩
          have hread : Job.eventsPage room anchor offset pageSize ≠ .initialSync room := by
            rintro ⟨⟩
          refine .done (served_insert haccess ?_ (.inl ⟨mem_rooms_of_getElem? hr, hread⟩))
          cases page with
          | error e => exact fun other h => hloaded other (congrArg _ (Except.error.inj h))
          | ok page => exact loaded_ok _
  | members room page pageSize => exact .done (served_withRoom _)
  | servers room page pageSize => exact .done (served_withRoom _)
  | aliases room page pageSize => exact .done (served_withRoom _)
  | memberInfo room user => exact .done (served_memberInfo room user)
  | powerLevels room => exact .done (served_withRoom _)

/-! ## Sweeps -/

/-- What no sweep changes of a room. -/
def tag (r : Room) : String × Time := (r.id, r.lastAccess)

theorem tag_forwardPaginate (r : Room) :
    r.forwardPaginate.Within (fun c => c.synced? = none) fun p => tag p.2 = tag r := by
  have hforward : (r.timeline.forwardPaginate r.id r.state).Within (fun c => c.synced? = none)
      fun _ => True := by
    refine .ask rfl fun answer => ?_
    cases answer <;> exact .done trivial
  unfold Room.forwardPaginate
  exact hforward.bind fun p _ => .done rfl

theorem tag_forwardAll (rooms : List String) (failures : Nat) (w : Worker) :
    (forwardAll rooms (failures, w)).Within (fun c => c.synced? = none) fun p =>
      ∀ room : String, p.2.rooms[room]?.map tag = w.rooms[room]?.map tag := by
  induction rooms generalizing failures w with
  | nil => exact .done fun _ => rfl
  | cons room rooms ih =>
      unfold forwardAll
      split
      · exact ih failures w
      · rename_i r hr
        refine (tag_forwardPaginate r).bind ?_
        rintro ⟨received, r'⟩ hr'
        refine (ih _ _).mono (fun _ hc => hc) fun p hp other => ?_
        rw [hp other, StringMap.getElem?_insert]
        split
        · subst room
          rw [hr]
          exact congrArg some hr'
        · rfl

/-- What a sweep comes to: it drops rooms, and of the others it changes neither id nor time. -/
structure Swept (rule : SweepRule) (now : Time) (i : Nat) (w : Worker) (p : SweepReport × Worker) :
    Prop where
  worker : p.1.workerId = i
  tag : ∀ room : String, p.2.rooms[room]?.map tag = (w.evictStale rule now).2.rooms[room]?.map tag

theorem swept_sweep (rule : SweepRule) (now : Time) (i : Nat) (w : Worker) :
    (w.sweep rule now i).Within (fun c => c.synced? = none) (Swept rule now i w) := by
  unfold sweep
  refine (tag_forwardAll _ 0 _).bind ?_
  rintro ⟨failures, w'⟩ hw'
  exact .done ⟨rfl, hw'⟩

/-! ## What is dropped -/

theorem mem_accesses {room : String} {t : Time} :
    (room, t) ∈ w.accesses ↔ ∃ r, w.rooms[room]? = some r ∧ r.lastAccess = t := by
  simp only [accesses, List.mem_map, Prod.exists, Prod.mk.injEq,
    Std.ExtTreeMap.mem_toList_iff_getElem?_eq_some]
  constructor
  · rintro ⟨_, r, hr, rfl, rfl⟩
    exact ⟨r, hr, rfl⟩
  · rintro ⟨r, hr, rfl⟩
    exact ⟨room, r, hr, rfl, rfl⟩

theorem byAccess_perm (rooms : List (String × Time)) : (byAccess rooms).Perm rooms :=
  List.mergeSort_perm ..

theorem pairwise_byAccess (rooms : List (String × Time)) :
    (byAccess rooms).Pairwise fun a b => b.2 ≤ a.2 := by
  refine (List.pairwise_mergeSort ?_ ?_ rooms).imp of_decide_eq_true
  · intro a b c hab hbc
    exact decide_eq_true (Int.le_trans (of_decide_eq_true hbc) (of_decide_eq_true hab))
  · intro a b
    rw [Bool.or_eq_true, decide_eq_true_iff, decide_eq_true_iff]
    exact Int.le_total ..

/-- Only a room that was not accessed since the cutoff is dropped, and only if more rooms than are
to be kept were accessed as lately as it was, itself included. -/
theorem exists_of_mem_stale {rooms : List (String × Time)} {keepMin : Nat} {cutoff : Time}
    {room : String} (h : room ∈ stale rooms keepMin cutoff) :
    ∃ t, (room, t) ∈ rooms ∧ t < cutoff ∧ keepMin < (rooms.filter (t ≤ ·.2)).length := by
  obtain ⟨⟨_, t⟩, hmem, rfl⟩ := List.mem_map.1 h
  obtain ⟨hdrop, hstale⟩ := List.mem_filter.1 hmem
  have hperm := byAccess_perm rooms
  have hsorted := pairwise_byAccess rooms
  refine ⟨t, hperm.mem_iff.1 (List.mem_of_mem_drop hdrop), by simpa using hstale, ?_⟩
  -- The rooms that are kept in any case were all accessed as lately.
  have hsplit := List.take_append_drop keepMin (byAccess rooms)
  rw [← hsplit, List.pairwise_append] at hsorted
  have htake : ((byAccess rooms).take keepMin).filter (t ≤ ·.2) =
      (byAccess rooms).take keepMin := by
    refine List.filter_eq_self.2 fun a ha => ?_
    exact decide_eq_true (hsorted.2.2 a ha _ hdrop)
  have hone : 0 < (((byAccess rooms).drop keepMin).filter (t ≤ ·.2)).length := by
    refine List.length_pos_of_mem (List.mem_filter.2 ⟨hdrop, ?_⟩)
    exact decide_eq_true (Int.le_refl t)
  have hlength : ((byAccess rooms).take keepMin).length = keepMin := by
    have := List.length_pos_of_mem hdrop
    rw [List.length_drop] at this
    rw [List.length_take]
    omega
  rw [← (hperm.filter _).length_eq, ← hsplit, List.filter_append, List.length_append, htake,
    hlength]
  omega

/-- What is dropped was not accessed for longer than the rule allows, and is not among the most
recently accessed rooms. -/
theorem of_evictStale_eq_none {rule : SweepRule} {room : String} {r : Room}
    (hr : w.rooms[room]? = some r) (hdropped : (w.evictStale rule now).2.rooms[room]? = none) :
    r.lastAccess < now - rule.ttl ∧
      rule.keepMin < (w.accesses.filter (r.lastAccess ≤ ·.2)).length := by
  unfold evictStale at hdropped
  split at hdropped
  · rw [hr] at hdropped
    cases hdropped
  · rename_i cutoff hcutoff
    have hnow : cutoff = now - rule.ttl := by
      unfold SweepRule.cutoff? at hcutoff
      dsimp only at hcutoff
      split at hcutoff
      · exact (Option.some.inj hcutoff).symm
      · cases hcutoff
    rw [getElem?_foldl_erase] at hdropped
    split at hdropped
    · rename_i hstale
      obtain ⟨t, hmem, hlt, hcount⟩ := exists_of_mem_stale hstale
      obtain ⟨r', hr', rfl⟩ := mem_accesses.1 hmem
      rw [hr] at hr'
      cases hr'
      exact ⟨hnow ▸ hlt, hcount⟩
    · rw [hr] at hdropped
      cases hdropped

end Worker

namespace Pool

def Task.Asks (w : Worker) : Task → Call → Prop
  | request _ job, c => w.MaySync job c
  | sweep .., c => c.synced? = none

def Task.Does (i : Nat) (w : Worker) : (task : Task) → task.Result × Worker → Prop
  | request now job, p => Worker.Served now job w p
  | sweep now rule, p => Worker.Swept rule now i w p

theorem does_perform (settings : RoomSettings) (i : Nat) (w : Worker) (task : Task) :
    (perform settings i w task).Within (task.Asks w) (task.Does i w) := by
  cases task with
  | request now job => exact Worker.served_handle settings now w job
  | sweep now rule => exact Worker.swept_sweep rule now i w

variable {settings : RoomSettings} {i : Nat} {log : Log} {w : Worker} {u : Option (Nat × Underway)}

theorem Labours.does (h : Labours settings i log w u) :
    ∀ v ∈ u, v.2.rest.Within (v.2.task.Asks w) (v.2.task.Does i w) :=
  (h.invariant (I := fun _ => True) trivial (fun w _ task => does_perform settings i w task)
    fun _ _ _ _ _ => trivial).2

theorem Labours.does_of_finished {ticket : Nat} {task : Task} {result : task.Result} {w' : Worker}
    (h : Labours settings i log w (some (ticket, ⟨task, .done (result, w')⟩))) :
    task.Does i w (result, w') := by
  cases h.does _ rfl with
  | done hdoes => exact hdoes

end Pool

end RoomReader
