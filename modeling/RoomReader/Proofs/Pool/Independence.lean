import RoomReader.Proofs.Pool.Agreement
import RoomReader.Proofs.Pool.Schedule
import RoomReader.Proofs.Timeline.Service

namespace RoomReader.Pool

/-!
# Rooms do not interfere

However many workers a pool has, and whatever they are sent, each room is served as by a slot of its
own: what the slot is told are the room's requests in the order of the queue, the sweeps of its
worker, and when the room was dropped. Given the answers that the pool was given for the room, the
slot makes the same calls and the same replies.
-/

section

variable {settings : RoomSettings} {room : String} {w v : Worker} {now : Time} {rule : SweepRule}

/-! ## Tasks -/

theorem mem_evicted :
    room ∈ (Task.sweep now rule).evicted w ↔
      room ∈ w.rooms ∧ (w.evictStale rule now).2.rooms[room]? = none := by
  simp [Task.evicted]

theorem getElem?_evictStale (rule : SweepRule) (now : Time) (w : Worker) (room : String) :
    (w.evictStale rule now).2.rooms[room]? =
      if room ∈ (Task.sweep now rule).evicted w then none else w.rooms[room]? := by
  split
  · rename_i hdropped
    exact (mem_evicted.1 hdropped).2
  · rename_i hnot
    rcases evictStale_eq_none_or_eq rule now w room with hnone | hsame
    · have hroom : room ∉ w.rooms := fun hmem => hnot (mem_evicted.2 ⟨hmem, hnone⟩)
      rw [hnone, Std.ExtTreeMap.getElem?_eq_none hroom]
    · exact hsame

theorem agrees_evictStale_of_mem (h : Agrees room w v)
    (hroom : room ∈ (Task.sweep now rule).evicted w) :
    Agrees room (w.evictStale rule now).2 { v with rooms := v.rooms.erase room } :=
  agrees_of_eq_none (h.filed.evictStale rule now) (mem_evicted.1 hroom).2
    Std.ExtTreeMap.getElem?_erase_self

theorem agrees_evictStale_of_notMem (h : Agrees room w v)
    (hroom : room ∉ (Task.sweep now rule).evicted w) :
    Agrees room (w.evictStale rule now).2 v := by
  refine ⟨h.filed.evictStale rule now, ?_⟩
  rw [getElem?_evictStale, if_neg hroom]
  exact h.same

/-- A task ends with the replies of the slot, and the worker agrees with the slot again. -/
def EndsAlike (room : String) (task : Task) (p : task.Result × Worker)
    (q : List Replied × Worker) : Prop :=
  q.1 = task.replies room p.1 ∧ Agrees room p.2 q.2

theorem shows_serve_request (i : Nat) {job : Job} (h : Agrees job.room w v) :
    (perform settings i w (.request now job)).Shows (Call.About job.room)
      (EndsAlike job.room (.request now job)) (Slot.serve settings job.room [.request job] v) := by
  rw [Slot.serve_singleton, perform, ← Exchange.bind_done (w.handle settings now job)]
  refine (shows_handle h).bind ?_
  rintro ⟨result, w'⟩ ⟨result', v'⟩ ⟨hresult, hagrees⟩
  cases hresult
  exact .done ⟨by simp [Task.replies], hagrees⟩

theorem shows_serve_forward (i : Nat) (h : Agrees room (w.evictStale rule now).2 v) :
    (perform settings i w (.sweep now rule)).Shows (Call.About room)
      (EndsAlike room (.sweep now rule)) (Slot.serve settings room [.forward] v) := by
  rw [Slot.serve_singleton]
  refine (h.shows_forwardAll_keys 0).bind ?_
  rintro ⟨failures, w'⟩ ⟨failures', v'⟩ hagrees
  exact .done ⟨rfl, hagrees⟩

/-- Whatever a worker does shows in the slot as what the slot is told. -/
theorem shows_perform (settings : RoomSettings) (i : Nat) (task : Task) (h : Agrees room w v) :
    (perform settings i w task).Shows (Call.About room) (EndsAlike room task)
      (Slot.serve settings room (task.ops room (task.evicted w)) v) := by
  cases task with
  | request now job =>
      by_cases hjob : job.room = room
      · subst hjob
        simp only [Task.ops, if_true]
        exact shows_serve_request i h
      · simp only [Task.ops, hjob, if_false, Slot.serve_nil]
        refine (within_handle_of_ne h hjob).shows_done ?_
        rintro ⟨result, w'⟩ hagrees
        exact ⟨by simp [Task.replies, hjob], hagrees⟩
  | sweep now rule =>
      by_cases hroom : room ∈ (Task.sweep now rule).evicted w
      · simp only [Task.ops, hroom, if_true]
        rw [Slot.serve_evict]
        exact shows_serve_forward i (agrees_evictStale_of_mem h hroom)
      · simp only [Task.ops, hroom, if_false]
        exact shows_serve_forward i (agrees_evictStale_of_notMem h hroom)

/-! ## Workers -/

/-- A worker at rest agrees with the slot, and one that is amid a task shows what is left of it to
the slot. -/
inductive Follows (room : String) (w : Worker) :
    Option Underway → Exchange (List Replied × Worker) → Prop
  | atRest {v : Worker} (h : Agrees room w v) : Follows room w none (.done ([], v))
  | amid {u : Underway} {rest : Exchange (List Replied × Worker)}
      (h : u.rest.Shows (Call.About room) (EndsAlike room u.task) rest) :
      Follows room w (some u) rest

/-- What is left of a slot comes to what is left of it later, after it was told, answered and has
replied what a worker's log says. -/
def Advances (settings : RoomSettings) (room : String) (log : List Progress)
    (rest rest' : Exchange (List Replied × Worker)) : Prop :=
  (Slot.andThen settings room rest (log.flatMap (Progress.ops room))).Reaches
    (log.flatMap (Progress.calls room))
    (Slot.prepend (log.flatMap (Progress.replies room)) rest')

variable {rest rest' rest'' : Exchange (List Replied × Worker)} {log later : List Progress}

theorem Advances.refl (rest : Exchange (List Replied × Worker)) :
    Advances settings room [] rest rest := by
  simpa [Advances] using Exchange.Reaches.refl rest

theorem Advances.trans (h : Advances settings room log rest rest')
    (h' : Advances settings room later rest' rest'') :
    Advances settings room (log ++ later) rest rest'' := by
  have hlater := h.bind fun p => Slot.prepend p.1 (Slot.serve settings room
    (later.flatMap (Progress.ops room)) p.2)
  change (Slot.andThen settings room _ _).Reaches _ (Slot.andThen settings room _ _) at hlater
  rw [Slot.andThen_andThen, Slot.andThen_prepend] at hlater
  have hreplies := h'.bind fun p => .done (log.flatMap (Progress.replies room) ++ p.1, p.2)
  change (Slot.prepend _ _).Reaches _ (Slot.prepend _ (Slot.prepend _ _)) at hreplies
  rw [Slot.prepend_prepend] at hreplies
  unfold Advances
  rw [List.flatMap_append, List.flatMap_append, List.flatMap_append]
  exact hlater.trans hreplies

theorem advances_singleton {p : Progress} :
    Advances settings room [p] rest rest' ↔
      (Slot.andThen settings room rest (p.ops room)).Reaches (p.calls room)
        (Slot.prepend (p.replies room) rest') := by
  simp only [Advances, List.flatMap_singleton]

theorem Follows.proceed {u u' : Option Underway} {p : Progress} {w' : Worker} {i : Nat}
    (h : Follows room w u rest) (hproceeds : Proceeds settings i w u p w' u') :
    ∃ rest', Advances settings room [p] rest rest' ∧ Follows room w' u' rest' := by
  cases hproceeds with
  | began task =>
      cases h with
      | @atRest v h =>
          refine ⟨_, advances_singleton.2 ?_, .amid (shows_perform settings i task h)⟩
          rw [Slot.andThen_done]
          exact .refl _
  | answered task c next answer =>
      cases h with
      | amid h =>
          by_cases hc : c.About room
          · obtain ⟨rest', hreaches, hshows⟩ := h.answer_own hc answer
            have hcalls : (Progress.answered ⟨c, answer⟩).calls room = [⟨c, answer⟩] := if_pos hc
            refine ⟨rest', advances_singleton.2 ?_, .amid hshows⟩
            rw [hcalls, Progress.ops, Progress.replies, Slot.andThen_nil, Slot.prepend_nil]
            exact hreaches
          · have hcalls : (Progress.answered ⟨c, answer⟩).calls room = [] := if_neg hc
            refine ⟨rest, advances_singleton.2 ?_, .amid (h.answer_other hc answer)⟩
            rw [hcalls, Progress.ops, Progress.replies, Slot.andThen_nil, Slot.prepend_nil]
            exact .refl rest
  | finished task result =>
      cases h with
      | amid h =>
          cases h with
          | @done _ q hends =>
              obtain ⟨replies, v⟩ := q
              obtain ⟨hreplies, hagrees⟩ := hends
              cases hreplies
              refine ⟨_, advances_singleton.2 ?_, .atRest hagrees⟩
              rw [Progress.ops, Progress.replies, Slot.andThen_nil, Slot.prepend_done,
                List.append_nil]
              exact .refl _

end

/-! ## Runs -/

section

variable {σ : Type} {hs : Homeserver σ} {settings : RoomSettings} {room : String} {x y : Config σ}
  {i j : Nat} {rest : Exchange (List Replied × Worker)}

def Config.Follows (x : Config σ) (room : String) (i : Nat)
    (rest : Exchange (List Replied × Worker)) : Prop :=
  Pool.Follows room (x.pool.worker i) (x.underway i) rest

theorem Config.Follows.step (hstep : Step hs settings x y) (h : x.Follows room j rest) :
    ∃ later rest', y.log j = x.log j ++ later ∧ Advances settings room later rest rest' ∧
      y.Follows room j rest' := by
  unfold Config.Follows at h ⊢
  rcases hstep.still_or_proceeds j with ⟨hlog, hworker, hunderway⟩ | ⟨p, hlog, hproceeds⟩
  · refine ⟨[], rest, ?_, .refl rest, ?_⟩
    · rw [hlog, List.append_nil]
    · rw [hworker, hunderway]
      exact h
  · obtain ⟨rest', hadvances, hfollows⟩ := h.proceed hproceeds
    exact ⟨[p], rest', hlog, hadvances, hfollows⟩

theorem Config.Follows.atRest (h : x.Follows room i rest) (hi : x.underway i = none) :
    ∃ v, rest = .done ([], v) := by
  rw [Config.Follows, hi] at h
  cases h with
  | atRest _ => exact ⟨_, rfl⟩

/-- Jobs are queued at the worker that owns their room, and so are begun by it. -/
structure Routed (x : Config σ) : Prop where
  queue : ∀ i, ∀ task ∈ x.queue i, task.IsFor x.pool i
  begun : ∀ i task evicted, .began task evicted ∈ x.log i → task.IsFor x.pool i

theorem Routed.step (hstep : Step hs settings x y) (h : Routed x) : Routed y := by
  cases hstep with
  | change s => exact ⟨h.queue, h.begun⟩
  | @send i task howner =>
      refine ⟨?_, h.begun⟩
      intro j task' htask'
      by_cases hij : j = i
      · subst hij
        simp only [Config.send, Function.update_self, List.mem_append, List.mem_singleton] at htask'
        rcases htask' with htask' | rfl
        · exact h.queue j task' htask'
        · exact howner
      · simp only [Config.send, Function.update_of_ne hij] at htask'
        exact h.queue j task' htask'
  | @begin i w task later hworker hunderway hqueue =>
      have htask : task.IsFor x.pool i := h.queue i task (hqueue ▸ List.mem_cons_self)
      constructor
      · intro j task' htask'
        by_cases hij : j = i
        · subst hij
          simp only [Config.begin, Function.update_self] at htask'
          exact h.queue j task' (hqueue ▸ List.mem_cons_of_mem _ htask')
        · simp only [Config.begin, Function.update_of_ne hij] at htask'
          exact h.queue j task' htask'
      · intro j task' evicted hbegun
        rcases (Config.mem_log_append rfl).1 hbegun with hold | ⟨rfl, hnew⟩
        · exact h.begun j task' evicted hold
        · cases hnew
          exact htask
  | @answer i task c next answer s hunderway hanswer =>
      refine ⟨h.queue, ?_⟩
      intro j task' evicted hbegun
      rcases (Config.mem_log_append rfl).1 hbegun with hold | ⟨-, hnew⟩
      · exact h.begun j task' evicted hold
      · cases hnew
  | @finish i task result w hi hunderway =>
      refine ⟨?_, ?_⟩
      · intro j task' htask' r hr
        exact (workerIndex_setWorker ..).trans (h.queue j task' htask' r hr)
      · intro j task' evicted hbegun r hr
        rcases (Config.mem_log_append rfl).1 hbegun with hold | ⟨-, hnew⟩
        · exact (workerIndex_setWorker ..).trans (h.begun j task' evicted hold r hr)
        · cases hnew

/-- What holds at any time: jobs are where they belong, and each worker follows what its log leaves
of the slot. -/
structure Alone (settings : RoomSettings) (room : String) (x : Config σ) : Prop where
  routed : Routed x
  follows : ∀ i, ∃ rest, Advances settings room (x.log i) (.done ([], {})) rest ∧
    x.Follows room i rest

theorem alone_idle (settings : RoomSettings) (room : String) (numWorkers : Nat) (s : σ) :
    Alone settings room (.idle (.ofSize numWorkers) s []) := by
  have hfiled : Worker.Filed {} := by
    intro other r hr
    simp at hr
  have hagrees : Agrees room {} {} := agrees_of_eq_none hfiled (by simp) (by simp)
  refine ⟨⟨nofun, nofun⟩, fun i => ⟨_, .refl _, ?_⟩⟩
  rw [Config.Follows, Config.idle, worker_ofSize]
  exact .atRest hagrees

theorem Alone.run (hrun : Run hs settings x y) (h : Alone settings room x) :
    Alone settings room y := by
  induction hrun with
  | refl => exact h
  | tail _ hstep ih =>
      refine ⟨ih.routed.step hstep, fun i => ?_⟩
      obtain ⟨rest, hadvances, hfollows⟩ := ih.follows i
      obtain ⟨later, rest', hlog, hlater, hfollows'⟩ := hfollows.step hstep
      rw [hlog]
      exact ⟨rest', hadvances.trans hlater, hfollows'⟩

/-- No worker but its owner has to do with a room. -/
theorem Alone.other (h : Alone settings room x) (hi : i ≠ x.pool.workerIndex room) :
    (x.log i).flatMap (Progress.calls room) = [] ∧
      (x.log i).flatMap (Progress.replies room) = [] := by
  have hrequest : ∀ job, .request job ∉ (x.log i).flatMap (Progress.ops room) := by
    intro job hjob
    obtain ⟨p, hp, hjob⟩ := List.mem_flatMap.1 hjob
    cases p with
    | answered a => cases hjob
    | finished task result => cases hjob
    | began task evicted =>
        cases task with
        | sweep now rule =>
            simp only [Progress.ops, Task.ops] at hjob
            split at hjob <;> simp at hjob
        | request now job' =>
            simp only [Progress.ops, Task.ops] at hjob
            split at hjob
            · rename_i hroom
              exact hi (h.routed.begun i _ evicted hp room (congrArg some hroom)).symm
            · cases hjob
  obtain ⟨rest, hadvances, -⟩ := h.follows i
  rw [Advances, Slot.andThen_done, Slot.prepend_nil, Slot.serve_empty hrequest] at hadvances
  generalize (x.log i).flatMap (Progress.calls room) = calls at *
  generalize (x.log i).flatMap (Progress.replies room) = replies at *
  generalize hy : Slot.prepend replies rest = y at hadvances
  cases hadvances with
  | refl => exact ⟨rfl, Slot.eq_nil_of_prepend_eq_done hy⟩

theorem flatMap_history {β : Type} {f : Progress → List β}
    (h : ∀ j ≠ i, (x.log j).flatMap f = []) :
    x.history.flatMap (fun e => f e.progress) = (x.log i).flatMap f := by
  have hother : ∀ e ∈ x.history, e.worker ≠ i → f e.progress = [] := by
    intro e he hworker
    exact List.flatMap_eq_nil_iff.1 (h e.worker hworker) e.progress (Config.mem_log he)
  rw [Config.log, List.flatMap_map]
  generalize x.history = l at hother
  clear h
  induction l with
  | nil => rfl
  | cons e l ih =>
      have hl := ih fun e' he' => hother e' (List.mem_cons_of_mem _ he')
      by_cases hworker : e.worker = i
      · simp [hworker, hl]
      · simp [hworker, hl, hother e List.mem_cons_self hworker]

/-- What the pool does for a room is what the slot of the room does. -/
theorem Alone.reaches (h : Alone settings room x) :
    ∃ rest, (Slot.serve settings room (x.ops room) {}).Reaches (x.calls room)
        (Slot.prepend (x.replies room) rest) ∧
      x.Follows room (x.pool.workerIndex room) rest := by
  obtain ⟨rest, hadvances, hfollows⟩ := h.follows (x.pool.workerIndex room)
  refine ⟨rest, ?_, hfollows⟩
  rw [Config.calls, flatMap_history fun j hj => (h.other hj).1, Config.replies,
    flatMap_history fun j hj => (h.other hj).2]
  rwa [Advances, Slot.andThen_done, Slot.prepend_nil] at hadvances

/-- At any time a pool of any size has made the calls and the replies for a room that a slot makes
which is told what the pool was told for the room and is given the same answers; when nothing is
underway for the room, the slot is done as well. So two pools, of whatever sizes and with whatever
other rooms, reply alike for a room if they are told and answered alike for it. -/
theorem reachable_serves_room_alone {σ : Type} {hs : Homeserver σ} {settings : RoomSettings}
    {numWorkers : Nat} {x : Config σ} (hx : Reachable hs settings numWorkers x) (room : String) :
    (∃ rest, (Slot.serve settings room (x.ops room) {}).Reaches (x.calls room)
        (Slot.prepend (x.replies room) rest) ∧
      (x.AtRest room → ∃ v, rest = .done ([], v))) ∧
    ∀ {σ' : Type} {hs' : Homeserver σ'} {numWorkers' : Nat} {y : Config σ'},
      Reachable hs' settings numWorkers' y → x.AtRest room → y.AtRest room →
      x.ops room = y.ops room → SameAnswers (x.calls room) (y.calls room) →
      x.calls room = y.calls room ∧ x.replies room = y.replies room := by
  obtain ⟨s, hrun⟩ := hx
  obtain ⟨rest, hreaches, hfollows⟩ := ((alone_idle settings room numWorkers s).run hrun).reaches
  have hdone (hrest : x.AtRest room) : ∃ v, rest = .done ([], v) := hfollows.atRest hrest
  refine ⟨⟨rest, hreaches, hdone⟩, ?_⟩
  rintro σ' hs' numWorkers' y ⟨s', hrun'⟩ hrest hrest' hops hanswers
  obtain ⟨rest', hreaches', hfollows'⟩ :=
    ((alone_idle settings room numWorkers' s').run hrun').reaches
  obtain ⟨v, rfl⟩ := hfollows.atRest hrest
  obtain ⟨v', rfl⟩ := hfollows'.atRest hrest'
  rw [Slot.prepend_done, List.append_nil] at hreaches hreaches'
  rw [← hops] at hreaches'
  obtain ⟨hcalls, hreplies⟩ := hreaches.eq_of_sameAnswers hreaches' hanswers
  exact ⟨hcalls, congrArg Prod.fst hreplies⟩

end

end RoomReader.Pool

/-! The small room in two pools: beside another room whose worker takes turns with its own at every
step, and together with that room on a single worker. -/

namespace RoomReader.SmallRoom

open RoomReader.Pool

def other : String := "!other:hs.one"

def twoRooms : LogServer :=
  (({} : LogServer).setRoom room { history := log }).setRoom other { history := [.message "$4"] }

def server : Homeserver Unit := ⟨fun c s => (some (twoRooms.answer c), s)⟩

def settings : RoomSettings := { syncLimit := 1, mediaBase := "" }

def load (room : String) : Task := .request 0 (.initialSync room)

def read (room : String) : Task := .request 0 (.eventsPage room "" 0 10)

def sweep : Task := .sweep 0 { ttl := SweepRule.maxTtl, keepMin := 0 }

def idle (numWorkers : Nat) : Config Unit := .idle (.ofSize numWorkers) () []

def bothSent : Config Unit :=
  ((idle 2).sendAll 0 [load room, sweep, read room]).sendAll 1 [load other, sweep]

def spread : Config Unit :=
  bothSent.follow server settings [0, 1, 0, 1, 0, 1, 0, 1, 0, 1, 0, 1, 0, 0, 0]

def allSent : Config Unit :=
  (idle 1).sendAll 0 [load other, load room, read other, sweep, read room]

def crowded : Config Unit :=
  allSent.follow server settings (List.replicate 16 0)

theorem reachable_spread : Reachable server settings 2 spread := by
  have hroom : (Pool.ofSize 2).workerIndex room = 0 := by decide +kernel
  have hother : (Pool.ofSize 2).workerIndex other = 1 := by decide +kernel
  have hfirst : Run server settings (idle 2)
      ((idle 2).sendAll 0 [load room, sweep, read room]) := by
    refine run_sendAll _ _ ?_
    simp only [List.forall_mem_cons]
    exact ⟨Task.isFor_request hroom, Task.isFor_sweep, Task.isFor_request hroom, nofun⟩
  have hsecond : Run server settings
      ((idle 2).sendAll 0 [load room, sweep, read room]) bothSent := by
    refine run_sendAll _ _ ?_
    simp only [List.forall_mem_cons]
    exact ⟨Task.isFor_request hother, Task.isFor_sweep, nofun⟩
  exact ⟨(), (hfirst.trans hsecond).trans (run_follow ..)⟩

theorem reachable_crowded : Reachable server settings 1 crowded := by
  have hroom : (Pool.ofSize 1).workerIndex room = 0 := by decide +kernel
  have hother : (Pool.ofSize 1).workerIndex other = 0 := by decide +kernel
  have hsent : Run server settings (idle 1) allSent := by
    refine run_sendAll _ _ ?_
    simp only [List.forall_mem_cons]
    exact ⟨Task.isFor_request hother, Task.isFor_request hroom, Task.isFor_request hother,
      Task.isFor_sweep, Task.isFor_request hroom, nofun⟩
  exact ⟨(), hsent.trans (run_follow ..)⟩

theorem replies_spread_eq_replies_crowded : spread.replies room = crowded.replies room := by
  have hspread : spread.AtRest room := Option.isNone_iff_eq_none.1 (by decide +kernel)
  have hcrowded : crowded.AtRest room := Option.isNone_iff_eq_none.1 (by decide +kernel)
  have hops : spread.ops room = crowded.ops room := by decide +kernel
  have hserver : ∀ c s answer s', server.respond c s = (some answer, s') →
      answer = twoRooms.answer c := by
    rintro c s answer s' ⟨⟩
    rfl
  have hanswers : SameAnswers (spread.calls room) (crowded.calls room) :=
    sameAnswers_of_forall (answer_eq_of_reachable hserver reachable_spread room)
      (answer_eq_of_reachable hserver reachable_crowded room)
  exact ((reachable_serves_room_alone reachable_spread room).2 reachable_crowded hspread hcrowded
    hops hanswers).2

end RoomReader.SmallRoom
