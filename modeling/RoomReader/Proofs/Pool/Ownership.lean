import RoomReader.Proofs.Pool.Crew
import RoomReader.Proofs.Pool.Recency

namespace RoomReader

open Pool

/-!
# One worker holds a room, at most once

Rooms are held only by the worker that owns them. For each room the loads and the drops are in
balance at any time: there is one load more than there are drops while the room is held or is sure
to be held when the task that is underway ends, and else there are as many.
-/

namespace Pool

namespace Progress

def loads (room : String) : Progress → Bool
  | answered ⟨.sync r _, answer⟩ => r == room && answer.isOk
  | _ => false

def drops (room : String) : Progress → Bool
  | began _ evicted => evicted.contains room
  | _ => false

end Progress

namespace Log

def loads (log : Log) (room : String) : Nat := log.countP (·.2.loads room)

def drops (log : Log) (room : String) : Nat := log.countP (·.2.drops room)

theorem loads_append (log later : Log) (room : String) :
    loads (log ++ later) room = log.loads room + later.loads room :=
  List.countP_append

theorem drops_append (log later : Log) (room : String) :
    drops (log ++ later) room = log.drops room + later.drops room :=
  List.countP_append

end Log

/-! ## What becomes of a room during a task -/

/-- Whether a room is sure to be held when a task ends, whatever is answered. As long as the initial
sync that is to load it is underway it is not. -/
inductive Fate (room : String) {α : Type} : Exchange (α × Worker) → Bool → Prop
  | kept {x : Exchange (α × Worker)}
      (h : x.Within (fun c => c.synced? ≠ some room) fun p => room ∈ p.2.rooms) : Fate room x true
  | gone {x : Exchange (α × Worker)}
      (h : x.Within (fun c => c.synced? ≠ some room) fun p => room ∉ p.2.rooms) : Fate room x false
  | loading {limit : Nat} {next : Except ApiError InitialSync → Exchange (α × Worker)}
      (hok : ∀ sync, Fate room (next (.ok sync)) true)
      (herror : ∀ e, Fate room (next (.error e)) false) :
      Fate room (.ask (.sync room limit) next) false

section

variable {settings : RoomSettings} {room : String} {i : Nat} {w : Worker} {α : Type}

theorem fate_of_iff {x : Exchange (α × Worker)} {held : Bool}
    (h : x.Within (fun c => c.synced? ≠ some room) fun p => room ∈ p.2.rooms ↔ held = true) :
    Fate room x held := by
  cases held with
  | true => exact .kept (h.mono (fun _ hc => hc) fun p hp => hp.2 rfl)
  | false => exact .gone (h.mono (fun _ hc => hc) fun p hp hmem => nomatch hp.1 hmem)

theorem Fate.mem_iff {a : α} {held : Bool} (h : Fate room (.done (a, w)) held) :
    room ∈ w.rooms ↔ held = true := by
  cases h with
  | kept h =>
      cases h with
      | done h => exact ⟨fun _ => rfl, fun _ => h⟩
  | gone h =>
      cases h with
      | done h => exact ⟨fun hmem => absurd hmem h, nofun⟩

theorem Fate.within_iff {x : Exchange (α × Worker)} {held : Bool} (h : Fate room x held) :
    x.Within (fun _ => True) (fun p => room ∈ p.2.rooms) ↔ held = true := by
  induction h with
  | kept h => exact ⟨fun _ => rfl, fun _ => h.mono (fun _ _ => trivial) fun _ hp => hp⟩
  | gone h =>
      refine ⟨fun hheld => ?_, nofun⟩
      obtain ⟨p, hmem, hnot⟩ := hheld.exists_both h
      exact absurd hmem hnot
  | @loading limit next _ _ _ iherror =>
      refine ⟨fun hheld => ?_, nofun⟩
      cases hheld with
      | ask _ hnext => exact (iherror (.decode "")).1 (hnext _)

theorem perform_initialSync (now : Time) (hroom : room ∉ w.rooms) :
    perform settings i w (.request now (.initialSync room)) =
      .ask (.sync room settings.syncLimit) fun answer =>
        match answer with
        | .error e => .done (.error (.ofApi room e), w)
        | .ok sync =>
          .done (.ok (), { w with rooms := w.rooms.insert room (.ofSync room now sync) }) := by
  have hnone : w.rooms[room]? = none := Std.ExtTreeMap.getElem?_eq_none hroom
  simp only [perform, Worker.handle, Worker.initialSync, hnone]
  refine congrArg (Exchange.ask _) (funext fun answer => ?_)
  cases answer <;> rfl

theorem perform_of_notMem {now : Time} {job : Job} (hroom : job.room ∉ w.rooms)
    (hjob : job ≠ .initialSync job.room) :
    perform settings i w (.request now job) = .done (.error (.notLoaded job.room), w) := by
  have hnone : w.rooms[job.room]? = none := Std.ExtTreeMap.getElem?_eq_none hroom
  cases job <;> simp_all [perform, Worker.handle, Worker.eventsPage, Worker.withRoom,
    Worker.memberInfo, Job.room]

theorem mem_rooms_iff_of_swept {rule : SweepRule} {now : Time} {p : SweepReport × Worker}
    (h : Worker.Swept rule now i w p) :
    room ∈ p.2.rooms ↔ room ∈ w.rooms ∧ room ∉ (Task.sweep now rule).evicted w := by
  have hleft : room ∈ p.2.rooms ↔ (w.evictStale rule now).2.rooms[room]?.isSome = true := by
    have htag := congrArg Option.isSome (h.tag room)
    rw [Option.isSome_map, Option.isSome_map] at htag
    rw [Std.ExtTreeMap.mem_iff_isSome_getElem?, htag]
  rw [hleft, getElem?_evictStale, Std.ExtTreeMap.mem_iff_isSome_getElem?]
  by_cases hdrop : room ∈ (Task.sweep now rule).evicted w <;> simp [hdrop]

theorem fate_perform (settings : RoomSettings) (i : Nat) (w : Worker) (task : Task)
    (room : String) :
    Fate room (perform settings i w task)
      (decide (room ∈ w.rooms) && !(task.evicted w).contains room) := by
  have hdoes := does_perform settings i w task
  cases task with
  | sweep now rule =>
      refine fate_of_iff (hdoes.mono (fun c hc hroom => ?_) fun p hp => ?_)
      · cases hroom.symm.trans hc
      · simp [mem_rooms_iff_of_swept hp]
  | request now job =>
      have hnone : (Task.request now job).evicted w = [] := rfl
      rw [hnone, List.contains_nil, Bool.not_false, Bool.and_true]
      by_cases hroom : job.room = room
      · subst hroom
        by_cases hheld : job.room ∈ w.rooms
        · refine fate_of_iff (hdoes.mono (fun c hc hsync => ?_) fun p hp => ?_)
          · exact (hc _ hsync).2 hheld
          · simp [hheld, (hp.kept hheld).1]
        · rw [decide_eq_false hheld]
          by_cases hjob : job = .initialSync job.room
          · obtain ⟨room, rfl⟩ : ∃ room, job = .initialSync room := ⟨_, hjob⟩
            change room ∉ w.rooms at hheld
            rw [perform_initialSync now hheld]
            refine .loading (fun sync => .kept (.done ?_)) fun e => .gone (.done hheld)
            exact Std.ExtTreeMap.mem_insert_self
          · rw [perform_of_notMem hheld hjob]
            exact .gone (.done hheld)
      · refine fate_of_iff (hdoes.mono (fun c hc hsync => ?_) fun p hp => ?_)
        · exact hroom (hc _ hsync).1.symm
        · have hsame := hp.other room (Ne.symm hroom)
          rw [Std.ExtTreeMap.mem_iff_isSome_getElem?, hsame, decide_eq_true_iff,
            Std.ExtTreeMap.mem_iff_isSome_getElem?]

/-- What is held by a worker, or is sure to be when its task ends. -/
def Holds (room : String) (w : Worker) : Option (Nat × Underway) → Prop
  | none => room ∈ w.rooms
  | some (_, u) => u.rest.Within (fun _ => True) fun p => room ∈ p.2.rooms

theorem mem_rooms_of_mem_evicted {task : Task} (h : room ∈ task.evicted w) : room ∈ w.rooms := by
  cases task with
  | request => cases h
  | sweep now rule => exact (mem_evicted.1 h).1

theorem loads_sync {limit : Nat} {answer : Except ApiError InitialSync} :
    (Progress.answered ⟨.sync room limit, answer⟩).loads room = answer.isOk := by
  simp [Progress.loads]

theorem loads_of_ne {c : Call} {answer : Except ApiError c.Reply} (hc : c.synced? ≠ some room) :
    (Progress.answered ⟨c, answer⟩).loads room = false := by
  cases c with
  | sync other limit =>
      have hne : other ≠ room := fun heq => hc (congrArg some heq)
      simp [Progress.loads, hne]
  | messages | publicRooms | resolveAlias => rfl

/-- How things stand with a room: whether it is held, or is sure to be when the task ends. -/
inductive Stands (room : String) (w : Worker) : Option (Nat × Underway) → Bool → Prop
  | resting {held : Bool} (h : room ∈ w.rooms ↔ held = true) : Stands room w none held
  | amid {ticket : Nat} {u : Underway} {held : Bool} (h : Fate room u.rest held) :
      Stands room w (some (ticket, u)) held

theorem Stands.holds_iff {u : Option (Nat × Underway)} {held : Bool} (h : Stands room w u held) :
    Holds room w u ↔ held = true := by
  cases h with
  | resting h => exact h
  | amid h => exact h.within_iff

/-- In a step, a room that is held stays unless it is dropped, and one that is not held stays away
unless it is loaded. -/
theorem Stands.proceeds {ticket : Nat} {p : Progress} {w' : Worker} {u u' : Option Underway}
    {held : Bool} (h : Stands room w (u.map (Prod.mk ticket)) held)
    (hproceeds : Proceeds settings i w u p w' u') :
    ∃ held', Stands room w' (u'.map (Prod.mk ticket)) held' ∧
      held.toNat + (p.loads room).toNat = (p.drops room).toNat + held'.toNat := by
  cases hproceeds with
  | began task =>
      cases h with
      | resting h =>
          refine ⟨_, .amid (fate_perform settings i w task room), ?_⟩
          by_cases hmem : room ∈ w.rooms
          · obtain rfl := h.1 hmem
            by_cases hdrop : room ∈ task.evicted w <;>
              simp [Progress.loads, Progress.drops, hmem, hdrop]
          · obtain rfl : held = false := Bool.eq_false_iff.2 fun hheld => hmem (h.2 hheld)
            have hdrop : room ∉ task.evicted w := fun h => hmem (mem_rooms_of_mem_evicted h)
            simp [Progress.loads, Progress.drops, hmem, hdrop]
  | answered task c next answer =>
      cases h with
      | amid h =>
          cases h with
          | kept h =>
              cases h with
              | ask hc hnext =>
                  exact ⟨true, .amid (.kept (hnext answer)), by rw [loads_of_ne hc]; rfl⟩
          | gone h =>
              cases h with
              | ask hc hnext =>
                  exact ⟨false, .amid (.gone (hnext answer)), by rw [loads_of_ne hc]; rfl⟩
          -- Only the answer to the room's own initial sync decides over it.
          | loading hok herror =>
              cases answer with
              | ok sync => exact ⟨true, .amid (hok sync), by rw [loads_sync]; rfl⟩
              | error e => exact ⟨false, .amid (herror e), by rw [loads_sync]; rfl⟩
  | finished task result =>
      cases h with
      | amid h => exact ⟨held, .resting h.mem_iff, Nat.add_comm ..⟩

/-- At any time the loads of a room exceed its drops by one if it is held, and by none if not. -/
theorem Labours.exists_balance {log : Log} {u : Option (Nat × Underway)}
    (h : Labours settings i log w u) (room : String) :
    ∃ held, Stands room w u held ∧ log.loads room = log.drops room + held.toNat := by
  induction h with
  | start => exact ⟨false, .resting (by simp), rfl⟩
  | @step log ticket p w w' u u' h hproceeds ih =>
      obtain ⟨held, hstands, hbalance⟩ := ih
      obtain ⟨held', hstands', hstep⟩ := hstands.proceeds hproceeds
      refine ⟨held', hstands', ?_⟩
      have hloads : Log.loads [(ticket, p)] room = (p.loads room).toNat := by
        cases h : p.loads room <;> simp [Log.loads, h]
      have hdrops : Log.drops [(ticket, p)] room = (p.drops room).toNat := by
        cases h : p.drops room <;> simp [Log.drops, h]
      rw [Log.loads_append, Log.drops_append, hloads, hdrops]
      omega

/-- After an initial sync that failed, the room is not held until one succeeds. -/
theorem Labours.notMem_of_failed {before between : Log} {first : Nat} {t₀ : Time} {e : RoomError}
    {u : Option (Nat × Underway)}
    (h : Labours settings i
      (before ++ [(first, .finished (.request t₀ (.initialSync room)) (.error e))] ++ between) w u)
    (hloads : ∀ a ∈ between, a.2.loads room = false) :
    room ∉ w.rooms ∧ Stands room w u false := by
  induction between using List.reverseRecOn generalizing w u with
  | nil =>
      rw [List.append_nil] at h
      obtain ⟨w₀, v, v', hbefore, hproceeds, rfl⟩ := h.of_snoc
      cases hproceeds with
      | finished =>
          have hserved := hbefore.does_of_finished
          have hroom : room ∉ w₀.rooms := hserved.failed e rfl rfl
          obtain rfl : w = w₀ := hserved.unchanged hroom e rfl
          exact ⟨hroom, .resting ⟨fun h => absurd h hroom, nofun⟩⟩
  | append_singleton between a ih =>
      obtain ⟨ticket, p⟩ := a
      rw [← List.append_assoc] at h
      obtain ⟨w₀, v, v', hbefore, hproceeds, rfl⟩ := h.of_snoc
      obtain ⟨hroom, hstands⟩ := ih hbefore fun a ha => hloads a (List.mem_append_left _ ha)
      obtain ⟨held, hstands', hstep⟩ := hstands.proceeds hproceeds
      have hload : p.loads room = false :=
        hloads _ (List.mem_append_right _ (List.mem_singleton_self _))
      obtain rfl : held = false := by
        rw [hload] at hstep
        cases held with
        | false => rfl
        | true => simp at hstep
      refine ⟨?_, hstands'⟩
      cases hproceeds with
      | began => exact hroom
      | answered => exact hroom
      | finished =>
          cases hstands' with
          | resting h => exact fun hmem => nomatch h.1 hmem

theorem perform_initialSync_of_mem {now : Time} (hroom : room ∈ w.rooms) :
    ∃ q, perform settings i w (.request now (.initialSync room)) = .done q := by
  obtain ⟨r, hr⟩ := Option.isSome_iff_exists.1 (Std.ExtTreeMap.mem_iff_isSome_getElem?.1 hroom)
  refine ⟨(.ok (), { w with rooms := w.rooms.insert room (r.access now) }), ?_⟩
  simp only [perform, Worker.handle, Worker.initialSync, hr]
  rfl

theorem Labours.request_underway {log : Log} {ticket : Nat} {now : Time} {job : Job}
    {evicted : List String} {u : Option (Nat × Underway)}
    (h : Labours settings i (log ++ [(ticket, .began (.request now job) evicted)]) w u) :
    ∃ rest, u = some (ticket, ⟨.request now job, rest⟩) ∧
      (job.room ∈ w.rooms → rest.Within (fun c => c.synced? = none) (fun _ => True) ∧
        (job = .initialSync job.room → ∃ q, rest = .done q)) ∧
      (job.room ∉ w.rooms → job = .initialSync job.room →
        ∃ next, rest = .ask (.sync job.room settings.syncLimit) next) := by
  obtain ⟨_, _, _, -, hproceeds, rfl⟩ := h.of_snoc
  cases hproceeds with
  | began =>
      refine ⟨_, rfl, fun hheld => ⟨?_, fun hjob => ?_⟩, fun hnot hjob => ?_⟩
      · have hdoes := does_perform settings i w (.request now job)
        refine hdoes.mono (fun c hc => ?_) fun _ _ => trivial
        by_contra hsync
        obtain ⟨room, hroom⟩ := Option.ne_none_iff_exists'.1 hsync
        obtain ⟨rfl, hnot⟩ := hc _ hroom
        exact hnot hheld
      · obtain ⟨room, rfl⟩ : ∃ room, job = .initialSync room := ⟨_, hjob⟩
        exact perform_initialSync_of_mem hheld
      · obtain ⟨room, rfl⟩ : ∃ room, job = .initialSync room := ⟨_, hjob⟩
        exact ⟨_, perform_initialSync now hnot⟩

theorem Labours.filed {log : Log} {u : Option (Nat × Underway)} (h : Labours settings i log w u) :
    w.Filed := by
  have hperform (w : Worker) (hw : w.Filed) (task : Task) :
      (perform settings i w task).Within (fun _ => True) fun p => p.2.Filed := by
    cases task with
    | request now job =>
        refine (Worker.within_handle hw job).mono (fun _ _ => trivial) fun p hp => ?_
        rcases hp with hsame | ⟨r, hr, hinsert⟩
        · rw [hsame]
          exact hw
        · rw [hinsert]
          exact hw.insert hr
    | sweep now rule =>
        refine (Worker.swept_sweep rule now i w).mono (fun _ _ => trivial) fun p hp => ?_
        intro room r hr
        obtain ⟨r', hr', htag⟩ := hp.exists_of_getElem? hr
        exact (congrArg Prod.fst htag).symm.trans (hw room r' hr')
  refine (h.invariant (I := Worker.Filed) ?_ hperform fun _ _ _ _ hfiled => hfiled).1
  intro room r hr
  simp at hr

/-- What a worker has to do with a room comes of a request on it. -/
def Log.Asks (log : Log) (room : String) : Prop :=
  ∃ a ∈ log.begun, ∃ now job, a.task = .request now job ∧ job.room = room

theorem Log.Asks.append {log : Log} (h : log.Asks room) (later : Log) :
    Log.Asks (log ++ later) room := by
  obtain ⟨a, ha, hrequest⟩ := h
  exact ⟨a, Log.begun_append ▸ List.mem_append_left _ ha, hrequest⟩

theorem Labours.asks_of_mem_rooms {log : Log} {u : Option (Nat × Underway)}
    (h : Labours settings i log w u) (hroom : room ∈ w.rooms) : log.Asks room := by
  obtain ⟨r, hr⟩ := Option.isSome_iff_exists.1 (Std.ExtTreeMap.mem_iff_isSome_getElem?.1 hroom)
  have hlast := List.mem_of_getLast? (h.getLast?_accesses hr)
  obtain ⟨⟨ticket, p⟩, he, haccess⟩ := List.mem_filterMap.1 hlast
  cases p with
  | began => cases haccess
  | answered => cases haccess
  | finished task result =>
      cases task with
      | sweep => cases haccess
      | request now job =>
          have hjob : job.room = room := (Option.ite_none_right_eq_some.1 haccess).1
          have hfinished : (⟨ticket, .request now job⟩ : Post) ∈ log.finished :=
            Log.mem_finished.2 ⟨result, he⟩
          exact ⟨_, h.begun_eq ▸ List.mem_append_left _ hfinished, now, job, rfl, hjob⟩

theorem Labours.asks_of_mem {log : Log} {u : Option (Nat × Underway)}
    (h : Labours settings i log w u) {e : Nat × Progress} (he : e ∈ log)
    (hroom : e.2.loads room = true ∨ e.2.drops room = true) : log.Asks room := by
  induction h with
  | start => cases he
  | @step log ticket p w w' u u' h hproceeds ih =>
      rcases List.mem_append.1 he with he | he
      · exact (ih he).append _
      · cases List.mem_singleton.1 he
        refine Log.Asks.append ?_ _
        cases hproceeds with
        | began task =>
            rcases hroom with hload | hdrop
            · cases hload
            · have hdropped : room ∈ task.evicted w := by simpa [Progress.drops] using hdrop
              exact h.asks_of_mem_rooms (mem_rooms_of_mem_evicted hdropped)
        | answered task c next answer =>
            have hsync : c.synced? = some room := by
              by_contra hne
              rcases hroom with hload | hdrop
              · exact absurd hload (by simp [loads_of_ne hne])
              · cases hdrop
            have hbegun : (⟨ticket, task⟩ : Post) ∈ log.begun := by
              rw [h.begun_eq]
              exact List.mem_append_right _ (List.mem_singleton_self _)
            cases h.does _ rfl with
            | ask hc _ =>
                cases task with
                | sweep => cases hsync.symm.trans hc
                | request now job => exact ⟨_, hbegun, now, job, rfl, (hc _ hsync).1.symm⟩
        | finished task result => rcases hroom with hload | hdrop <;> contradiction

end

end Pool

namespace Crew

variable {σ : Type} {hs : Homeserver σ} {settings : RoomSettings} {numWorkers : Nat} {x y : Crew σ}
  {i j : Nat} {room : String} {w : Worker}

/-- The worker that owns a room holds it, or is sure to hold it when its task ends. -/
def Caches (x : Crew σ) (room : String) : Prop :=
  ∃ w, x.pool.workers[x.pool.workerIndex room]? = some (some w) ∧
    Holds room w (x.underway (x.pool.workerIndex room))

def count (x : Crew σ) (q : Progress → Bool) : Nat :=
  x.history.countP fun note =>
    match note with
    | .progress _ _ p => q p
    | .death .. => false

def loads (x : Crew σ) (room : String) : Nat := x.count (Progress.loads room)

def drops (x : Crew σ) (room : String) : Nat := x.count (Progress.drops room)

theorem count_eq_countP_log {q : Progress → Bool}
    (h : ∀ j, j ≠ i → ∀ e ∈ x.log j, q e.2 = false) : x.count q = (x.log i).countP (q ·.2) := by
  rw [count, log, List.countP_filterMap]
  refine List.countP_congr fun note hnote => ?_
  cases note with
  | death => simp [Note.progress?]
  | progress k ticket p =>
      by_cases hk : k = i
      · simp [Note.progress?, hk]
      · have hmem : (ticket, p) ∈ x.log k := by
          refine List.mem_filterMap.2 ⟨_, hnote, ?_⟩
          exact if_pos rfl
        simp [Note.progress?, hk, h k hk _ hmem]

theorem InOrder.workerIndex_eq_of_asks (h : x.InOrder settings) (hasks : (x.log j).Asks room) :
    x.pool.workerIndex room = j := by
  obtain ⟨a, ha, now, job, htask, hroom⟩ := hasks
  have hpost : a ∈ x.posts j := (h.sound j).begun_isPrefix.subset ha
  obtain ⟨⟨k, a⟩, hfound, rfl⟩ := List.mem_map.1 hpost
  obtain ⟨hsent, hk⟩ := List.mem_filter.1 hfound
  obtain rfl : k = j := beq_iff_eq.1 hk
  refine (h.ticketed.owner _ hsent).2 room ?_
  rw [htask, Task.room?, hroom]

theorem InOrder.count_eq (h : x.InOrder settings) {q : Progress → Bool}
    (hq : ∀ p, q p = true → p.loads room = true ∨ p.drops room = true) :
    x.count q = (x.log (x.pool.workerIndex room)).countP (q ·.2) := by
  refine count_eq_countP_log fun j hj e he => ?_
  obtain ⟨_, _, hlabours⟩ := h.exists_labours j
  refine Bool.eq_false_iff.2 fun htrue => ?_
  exact hj (h.workerIndex_eq_of_asks (hlabours.asks_of_mem he (hq _ htrue))).symm

theorem InOrder.exists_balance (h : x.InOrder settings)
    (hw : x.pool.workers[x.pool.workerIndex room]? = some (some w)) :
    ∃ held : Bool, (Holds room w (x.underway (x.pool.workerIndex room)) ↔ held = true) ∧
      x.loads room = x.drops room + held.toNat := by
  obtain ⟨held, hstands, hbalance⟩ := (h.labours hw).1.exists_balance room
  refine ⟨held, hstands.holds_iff, ?_⟩
  rw [loads, drops, h.count_eq fun p hp => .inl hp, h.count_eq fun p hp => .inr hp]
  exact hbalance

/-- A room is cached by its owner alone, under its own id. As long as the owner lives, the
successful initial syncs of the room exceed its drops by one if it is cached, and by none if it is
not. After an initial sync that failed the room is not held until one succeeds. A request to load a
room that is not held asks for it, and no request on a room that is held does. -/
theorem single_ownership (hx : Reachable hs settings numWorkers x) :
    (∀ i w room r, x.pool.workers[i]? = some (some w) → w.rooms[room]? = some r →
      i = Shard.ofRoom room (max numWorkers 1) ∧ i < max numWorkers 1 ∧ r.id = room) ∧
    (∀ room, x.alive (x.pool.workerIndex room) = true →
      (x.Caches room → x.loads room = x.drops room + 1) ∧
      (¬ x.Caches room → x.loads room = x.drops room)) ∧
    ∀ i w, x.pool.workers[i]? = some (some w) →
      (∀ before first t₀ room e between,
        x.log i = before ++ [(first, .finished (.request t₀ (.initialSync room)) (.error e))] ++
          between →
        (∀ a ∈ between, a.2.loads room = false) → room ∉ w.rooms) ∧
      ∀ before ticket now job evicted,
        x.log i = before ++ [(ticket, .began (.request now job) evicted)] →
        ∃ rest, x.underway i = some (ticket, ⟨.request now job, rest⟩) ∧
          (job.room ∈ w.rooms → rest.Within (fun c => c.synced? = none) (fun _ => True) ∧
            (job = .initialSync job.room → ∃ q, rest = .done q)) ∧
          (job.room ∉ w.rooms → job = .initialSync job.room →
            ∃ next, rest = .ask (.sync job.room settings.syncLimit) next) := by
  have h := hx.inOrder
  refine ⟨?_, ?_, ?_⟩
  · intro i w room r hw hr
    have hlabours := (h.labours hw).1
    have howner := h.workerIndex_eq_of_asks
      (hlabours.asks_of_mem_rooms (Worker.mem_rooms_of_getElem? hr))
    rw [workerIndex, hx.numWorkers_eq] at howner
    exact ⟨howner.symm, hx.numWorkers_eq ▸ lt_of_getElem? hw, hlabours.filed room r hr⟩
  · intro room halive
    obtain ⟨w, hw⟩ := exists_of_alive halive
    obtain ⟨held, hholds, hbalance⟩ := h.exists_balance hw
    have hcaches : x.Caches room ↔ held = true := by
      rw [← hholds]
      refine ⟨?_, fun hcached => ⟨w, hw, hcached⟩⟩
      rintro ⟨w', hw', hcached⟩
      rw [hw] at hw'
      cases hw'
      exact hcached
    refine ⟨fun hcached => ?_, fun hcached => ?_⟩
    · rwa [hcaches.1 hcached] at hbalance
    · rwa [Bool.eq_false_iff.2 fun hheld => hcached (hcaches.2 hheld)] at hbalance
  · intro i w hw
    have hlabours := (h.labours hw).1
    refine ⟨?_, ?_⟩
    · intro before first t₀ room e between hlog hloads
      rw [hlog] at hlabours
      exact (hlabours.notMem_of_failed hloads).1
    · intro before ticket now job evicted hlog
      rw [hlog] at hlabours
      exact hlabours.request_underway

end Crew

/-! The first call fails, so a room is asked for twice when it is to be synced three times. -/

namespace SmallRoom

open Crew

def firstFails : Homeserver Bool :=
  ⟨fun c s => if s then (some (twoRooms.answer c), true) else (some (.error (.http 502)), true)⟩

def asked : Crew Bool :=
  (((Crew.idle (.ofSize 2) false).ask 0 1 (.initialSync room)).ask 1 2 (.initialSync room)).ask 2 3
    (.initialSync room)

/-- As the second load begins, as it is finished, and as the third begins. -/
def retried : Crew Bool := asked.turns firstFails settings (List.replicate 4 0)

def synced : Crew Bool := asked.turns firstFails settings (List.replicate 6 0)

def revisited : Crew Bool := asked.turns firstFails settings (List.replicate 7 0)

theorem reachable_asked (schedule : List Nat) :
    Crew.Reachable firstFails settings 2 (asked.turns firstFails settings schedule) :=
  ⟨false, (((run_ask firstFails settings (by decide +kernel) 1 _).trans
    (run_ask firstFails settings (by decide +kernel) 2 _)).trans
    (run_ask firstFails settings (by decide +kernel) 3 _)).trans (run_turns ..)⟩

theorem room_asked_for_again : ∃ w w' r next q,
    retried.pool.workers[0]? = some (some w) ∧ room ∉ w.rooms ∧
    retried.underway 0 = some (1, ⟨.request 2 (.initialSync room), .ask (.sync room 1) next⟩) ∧
    synced.pool.workers[0]? = some (some w') ∧ w'.rooms[room]? = some r ∧ r.id = room ∧
    synced.loads room = synced.drops room + 1 ∧
    revisited.underway 0 = some (2, ⟨.request 3 (.initialSync room), .done q⟩) := by
  obtain ⟨-, -, hretried⟩ := single_ownership (reachable_asked (List.replicate 4 0))
  obtain ⟨howned, hbalance, -⟩ := single_ownership (reachable_asked (List.replicate 6 0))
  obtain ⟨-, -, hrevisited⟩ := single_ownership (reachable_asked (List.replicate 7 0))
  have hfailed : retried.log 0 =
      [(0, .began (.request 1 (.initialSync room)) []),
        (0, .answered ⟨.sync room 1, .error (.http 502)⟩)] ++
      [(0, .finished (.request 1 (.initialSync room)) (.error (.ofApi room (.http 502))))] ++
      [(1, .began (.request 2 (.initialSync room)) [])] := by
    cbv
  have hagain : ∃ before,
      revisited.log 0 = before ++ [(2, .began (.request 3 (.initialSync room)) [])] := by
    refine List.getLast?_eq_some_iff.1 ?_
    cbv
  have hheld : (synced.pool.workers[0]?.join.bind fun w => w.rooms[room]?).isSome = true := by cbv
  have hstill : (revisited.pool.workers[0]?.join.bind fun w => w.rooms[room]?).isSome = true := by
    cbv
  obtain ⟨w, hw⟩ := exists_of_alive (x := retried) (i := 0) (by decide +kernel)
  obtain ⟨w₁, hw₁⟩ := exists_of_alive (x := synced) (i := 0) (by decide +kernel)
  obtain ⟨w₂, hw₂⟩ := exists_of_alive (x := revisited) (i := 0) (by decide +kernel)
  rw [hw₁, Option.join_some, Option.bind_some] at hheld
  rw [hw₂, Option.join_some, Option.bind_some] at hstill
  obtain ⟨r, hr⟩ := Option.isSome_iff_exists.1 hheld
  -- The second load asks, as the first one failed.
  obtain ⟨hafter, hbegun⟩ := hretried 0 w hw
  have hnot : room ∉ w.rooms := hafter _ 0 1 room _ _ hfailed (by simp [Progress.loads])
  obtain ⟨rest, hasks, -, hload⟩ := hbegun _ 1 2 (.initialSync room) [] hfailed
  obtain ⟨next, rfl⟩ := hload hnot rfl
  -- The third one does not.
  obtain ⟨before, hagain⟩ := hagain
  obtain ⟨rest, hdone, hkept, -⟩ := (hrevisited 0 w₂ hw₂).2 _ 2 3 (.initialSync room) [] hagain
  obtain ⟨q, rfl⟩ := (hkept (Std.ExtTreeMap.mem_iff_isSome_getElem?.2 hstill)).2 rfl
  have howner : synced.pool.workerIndex room = 0 := by decide +kernel
  have hrest : (synced.underway 0).isNone = true := by decide +kernel
  have hcached : synced.Caches room := by
    rw [Caches, howner, Option.isNone_iff_eq_none.1 hrest]
    exact ⟨w₁, hw₁, Worker.mem_rooms_of_getElem? hr⟩
  exact ⟨w, w₁, r, next, q, hw, hnot, hasks, hw₁, hr, (howned 0 w₁ room r hw₁ hr).2.2,
    (hbalance room (by decide +kernel)).1 hcached, hdone⟩

end SmallRoom

end RoomReader
