import RoomReader.Pool.Basic
import RoomReader.Proofs.Pool.Slot
import Mathlib.Logic.Function.Basic
import Mathlib.Logic.Relation

namespace RoomReader.Pool

/-!
# A pool at work

The workers of a pool work at the same time. Each has a queue of tasks, which are jobs on its rooms
and its shares of sweeps, and does one task after another. At any moment any worker may begin with
its next task, have one homeserver call answered, or be done with its task, and tasks are sent and
the homeserver changes meanwhile. The history notes what happens, for whoever looks at it later.
-/

inductive Task
  | request (now : Time) (job : Job)
  | sweep (now : Time) (rule : SweepRule)
deriving DecidableEq, Repr

namespace Task

abbrev Result : Task → Type
  | request _ job => Except RoomError job.Reply
  | sweep .. => SweepReport

def room? : Task → Option String
  | request _ job => some job.room
  | sweep .. => none

/-- A job is for the worker that owns its room, a share of a sweep for any worker. -/
def IsFor (p : Pool) (i : Nat) (task : Task) : Prop :=
  ∀ room, task.room? = some room → p.workerIndex room = i

theorem isFor_request {p : Pool} {i : Nat} {now : Time} {job : Job}
    (h : p.workerIndex job.room = i) : (request now job).IsFor p i := by
  rintro room ⟨⟩
  exact h

theorem isFor_sweep {p : Pool} {i : Nat} {now : Time} {rule : SweepRule} :
    (sweep now rule).IsFor p i := by
  intro room hroom
  cases hroom

/-- The rooms that the worker drops first of all. -/
def evicted (w : Worker) : Task → List String
  | request .. => []
  | sweep now rule => w.rooms.keys.filter fun room => (w.evictStale rule now).2.rooms[room]?.isNone

/-- What a task is to a slot. -/
def ops (room : String) (evicted : List String) : Task → List Slot.Op
  | request _ job => if job.room = room then [.request job] else []
  | sweep .. => if room ∈ evicted then [.evict, .forward] else [.forward]

/-- What a task replies to requests on a room. -/
def replies (room : String) : (task : Task) → task.Result → List Replied
  | request _ job, result => if job.room = room then [⟨job, result⟩] else []
  | sweep .., _ => []

end Task

def perform (settings : RoomSettings) (i : Nat) (w : Worker) :
    (task : Task) → Exchange (task.Result × Worker)
  | .request now job => w.handle settings now job
  | .sweep now rule => w.sweep rule now i

/-- A task that a worker has begun with what is left of it. -/
structure Underway where
  task : Task
  rest : Exchange (task.Result × Worker)

/-- What a worker can get on with. -/
inductive Progress
  | began (task : Task) (evicted : List String)
  | answered (a : Answered)
  | finished (task : Task) (result : task.Result)

namespace Progress

def ops (room : String) : Progress → List Slot.Op
  | began task evicted => task.ops room evicted
  | answered _ => []
  | finished .. => []

def calls (room : String) : Progress → List Answered
  | began .. => []
  | answered a => if a.call.About room then [a] else []
  | finished .. => []

def replies (room : String) : Progress → List Replied
  | began .. => []
  | answered _ => []
  | finished task result => task.replies room result

end Progress

structure Entry where
  worker : Nat
  progress : Progress

def worker (p : Pool) (i : Nat) : Worker := p.workers[i]?.join.getD {}

theorem worker_of_getElem? {p : Pool} {i : Nat} {w : Worker}
    (h : p.workers[i]? = some (some w)) : p.worker i = w := by
  simp [worker, h]

@[simp] theorem worker_ofSize (n i : Nat) : (ofSize n).worker i = {} := by
  by_cases hi : i < max n 1 <;> simp [worker, ofSize, hi]

theorem worker_setWorker_self {p : Pool} {i : Nat} (hi : i < p.numWorkers) (w : Worker) :
    (p.setWorker i (some w)).worker i = w :=
  worker_of_getElem? (List.getElem?_set_self hi)

theorem worker_setWorker_of_ne (p : Pool) {i j : Nat} (hij : i ≠ j) (w : Option Worker) :
    (p.setWorker i w).worker j = p.worker j := by
  rw [worker, worker, setWorker, List.getElem?_set_ne hij]

/-- A pool with what its workers are to do and are doing. While a worker is amid a task, the pool
has it as it was before. -/
structure Config (σ : Type) where
  pool : Pool
  queue : Nat → List Task
  underway : Nat → Option Underway
  server : σ
  history : List Entry

namespace Config

variable {σ : Type}

def idle (p : Pool) (s : σ) (history : List Entry) : Config σ :=
  ⟨p, fun _ => [], fun _ => none, s, history⟩

def send (x : Config σ) (i : Nat) (task : Task) : Config σ :=
  { x with queue := Function.update x.queue i (x.queue i ++ [task]) }

def begin (settings : RoomSettings) (x : Config σ) (i : Nat) (w : Worker) (task : Task)
    (later : List Task) : Config σ :=
  { x with
    queue := Function.update x.queue i later
    underway := Function.update x.underway i (some ⟨task, perform settings i w task⟩)
    history := x.history ++ [⟨i, .began task (task.evicted w)⟩] }

def answer (x : Config σ) (i : Nat) (u : Underway) (a : Answered) (s : σ) : Config σ :=
  { x with
    underway := Function.update x.underway i (some u)
    server := s
    history := x.history ++ [⟨i, .answered a⟩] }

def finish (x : Config σ) (i : Nat) (task : Task) (result : task.Result) (w : Worker) : Config σ :=
  { x with
    pool := x.pool.setWorker i (some w)
    underway := Function.update x.underway i none
    history := x.history ++ [⟨i, .finished task result⟩] }

def log (x : Config σ) (i : Nat) : List Progress :=
  (x.history.filter (·.worker == i)).map (·.progress)

theorem mem_log {x : Config σ} {e : Entry} (h : e ∈ x.history) : e.progress ∈ x.log e.worker := by
  simp only [log, List.mem_map, List.mem_filter]
  exact ⟨e, ⟨h, by simp⟩, rfl⟩

theorem log_append (x : Config σ) {y : Config σ} {i : Nat} {p : Progress}
    (h : y.history = x.history ++ [⟨i, p⟩]) (j : Nat) :
    y.log j = x.log j ++ if i = j then [p] else [] := by
  by_cases hij : i = j <;> simp [log, h, hij]

theorem mem_log_append {x y : Config σ} {i j : Nat} {p q : Progress}
    (h : y.history = x.history ++ [⟨i, p⟩]) : q ∈ y.log j ↔ q ∈ x.log j ∨ i = j ∧ q = p := by
  rw [x.log_append h]
  by_cases hij : i = j <;> simp [hij]

/-- What the slot of a room is told. -/
def ops (x : Config σ) (room : String) : List Slot.Op :=
  (x.log (x.pool.workerIndex room)).flatMap (Progress.ops room)

def calls (x : Config σ) (room : String) : List Answered :=
  x.history.flatMap (·.progress.calls room)

def replies (x : Config σ) (room : String) : List Replied :=
  x.history.flatMap (·.progress.replies room)

/-- No task of the worker of a room is underway. -/
def AtRest (x : Config σ) (room : String) : Prop := x.underway (x.pool.workerIndex room) = none

end Config

section

variable {σ : Type} (hs : Homeserver σ) (settings : RoomSettings)

inductive Step : Config σ → Config σ → Prop
  | send {x : Config σ} {i : Nat} {task : Task} (howner : task.IsFor x.pool i) :
      Step x (x.send i task)
  | begin {x : Config σ} {i : Nat} {w : Worker} {task : Task} {later : List Task}
      (hworker : x.pool.workers[i]? = some (some w)) (hunderway : x.underway i = none)
      (hqueue : x.queue i = task :: later) : Step x (x.begin settings i w task later)
  | answer {x : Config σ} {i : Nat} {task : Task} {c : Call}
      {next : Except ApiError c.Reply → Exchange (task.Result × Worker)}
      {answer : Except ApiError c.Reply} {s : σ}
      (hunderway : x.underway i = some ⟨task, .ask c next⟩)
      (hanswer : hs.respond c x.server = (some answer, s)) :
      Step x (x.answer i ⟨task, next answer⟩ ⟨c, answer⟩ s)
  | finish {x : Config σ} {i : Nat} {task : Task} {result : task.Result} {w : Worker}
      (hi : i < x.pool.numWorkers)
      (hunderway : x.underway i = some ⟨task, .done (result, w)⟩) :
      Step x (x.finish i task result w)
  /-- The homeserver changes on its own. -/
  | change {x : Config σ} (s : σ) : Step x { x with server := s }

abbrev Run : Config σ → Config σ → Prop := Relation.ReflTransGen (Step hs settings)

/-- What a pool of some size can come to. -/
def Reachable (numWorkers : Nat) (x : Config σ) : Prop :=
  ∃ s, Run hs settings (.idle (.ofSize numWorkers) s []) x

end

/-- What a worker gets on with, and how it goes on from there. -/
inductive Proceeds (settings : RoomSettings) (i : Nat) :
    Worker → Option Underway → Progress → Worker → Option Underway → Prop
  | began (w : Worker) (task : Task) :
      Proceeds settings i w none (.began task (task.evicted w)) w
        (some ⟨task, perform settings i w task⟩)
  | answered (w : Worker) (task : Task) (c : Call)
      (next : Except ApiError c.Reply → Exchange (task.Result × Worker))
      (answer : Except ApiError c.Reply) :
      Proceeds settings i w (some ⟨task, .ask c next⟩) (.answered ⟨c, answer⟩) w
        (some ⟨task, next answer⟩)
  | finished (w : Worker) (task : Task) (result : task.Result) (w' : Worker) :
      Proceeds settings i w (some ⟨task, .done (result, w')⟩) (.finished task result) w' none

/-- In a step, a worker stays as it is or proceeds. -/
theorem Step.still_or_proceeds {σ : Type} {hs : Homeserver σ} {settings : RoomSettings}
    {x y : Config σ} (h : Step hs settings x y) (j : Nat) :
    (y.log j = x.log j ∧ y.pool.worker j = x.pool.worker j ∧ y.underway j = x.underway j) ∨
      ∃ p, y.log j = x.log j ++ [p] ∧
        Proceeds settings j (x.pool.worker j) (x.underway j) p (y.pool.worker j) (y.underway j) := by
  cases h with
  | send howner => exact .inl ⟨rfl, rfl, rfl⟩
  | change s => exact .inl ⟨rfl, rfl, rfl⟩
  | @begin i w task later hworker hunderway hqueue =>
      have hlog := x.log_append (y := x.begin settings i w task later) rfl j
      by_cases hij : i = j
      · subst hij
        refine .inr ⟨_, by simpa using hlog, ?_⟩
        simpa [Config.begin, hunderway, worker_of_getElem? hworker] using Proceeds.began w task
      · exact .inl ⟨by simpa [hij] using hlog, rfl, Function.update_of_ne (Ne.symm hij) ..⟩
  | @answer i task c next answer s hunderway hanswer =>
      have hlog := x.log_append (y := x.answer i ⟨task, next answer⟩ ⟨c, answer⟩ s) rfl j
      by_cases hij : i = j
      · subst hij
        refine .inr ⟨_, by simpa using hlog, ?_⟩
        simpa [Config.answer, hunderway] using Proceeds.answered _ task c next answer
      · exact .inl ⟨by simpa [hij] using hlog, rfl, Function.update_of_ne (Ne.symm hij) ..⟩
  | @finish i task result w hi hunderway =>
      have hlog := x.log_append (y := x.finish i task result w) rfl j
      by_cases hij : i = j
      · subst hij
        refine .inr ⟨_, by simpa using hlog, ?_⟩
        simpa [Config.finish, hunderway, worker_setWorker_self hi] using
          Proceeds.finished _ task result w
      · exact .inl ⟨by simpa [hij] using hlog, worker_setWorker_of_ne _ hij _,
          Function.update_of_ne (Ne.symm hij) ..⟩

/-- Where the answers depend on nothing but the call, so do those about a room. -/
theorem answer_eq_of_reachable {σ : Type} {hs : Homeserver σ} {settings : RoomSettings}
    {numWorkers : Nat} {x : Config σ} {f : (c : Call) → Except ApiError c.Reply}
    (hf : ∀ c s answer s', hs.respond c s = (some answer, s') → answer = f c)
    (hx : Reachable hs settings numWorkers x) (room : String) :
    ∀ a ∈ x.calls room, a.answer = f a.call := by
  obtain ⟨s, hrun⟩ := hx
  induction hrun with
  | refl => nofun
  | tail _ hstep ih =>
      cases hstep with
      | send howner => exact ih
      | change s => exact ih
      | begin hworker hunderway hqueue =>
          simpa [Config.calls, Config.begin, Progress.calls] using ih
      | finish hi hunderway => simpa [Config.calls, Config.finish, Progress.calls] using ih
      | answer hunderway hanswer =>
          intro a ha
          rw [Config.calls, Config.answer, List.flatMap_append, List.mem_append] at ha
          rcases ha with hold | hnew
          · exact ih a hold
          · rw [List.flatMap_singleton, Progress.calls] at hnew
            split at hnew
            · cases List.mem_singleton.1 hnew
              exact hf _ _ _ _ hanswer
            · cases hnew

section

variable {σ : Type} (hs : Homeserver σ) (settings : RoomSettings) (x : Config σ)

def Config.proceed (i : Nat) : Config σ :=
  match x.underway i with
  | none =>
    match x.queue i, x.pool.workers[i]? with
    | task :: later, some (some w) => x.begin settings i w task later
    | _, _ => x
  | some ⟨task, .ask c next⟩ =>
    match hs.respond c x.server with
    | (some answer, s) => x.answer i ⟨task, next answer⟩ ⟨c, answer⟩ s
    | (none, _) => x
  | some ⟨task, .done (result, w)⟩ =>
    if i < x.pool.numWorkers then x.finish i task result w else x

theorem run_proceed (i : Nat) : Run hs settings x (x.proceed hs settings i) := by
  unfold Config.proceed
  split
  · split
    · exact .single (.begin ‹_› ‹_› ‹_›)
    · exact .refl
  · split
    · exact .single (.answer ‹_› ‹_›)
    · exact .refl
  · split
    · exact .single (.finish ‹_› ‹_›)
    · exact .refl

/-- A schedule names the workers in the order in which they get on. -/
def Config.follow (schedule : List Nat) : Config σ := schedule.foldl (Config.proceed hs settings) x

theorem run_follow (schedule : List Nat) : Run hs settings x (x.follow hs settings schedule) := by
  unfold Config.follow
  induction schedule generalizing x with
  | nil => exact .refl
  | cons i schedule ih => exact (run_proceed hs settings x i).trans (ih _)

def Config.sendAll (x : Config σ) (i : Nat) (tasks : List Task) : Config σ :=
  tasks.foldl (fun x task => x.send i task) x

theorem run_sendAll {x : Config σ} {i : Nat} {tasks : List Task}
    (h : ∀ task ∈ tasks, task.IsFor x.pool i) : Run hs settings x (x.sendAll i tasks) := by
  unfold Config.sendAll
  induction tasks generalizing x with
  | nil => exact .refl
  | cons task tasks ih =>
      have hsend : Step hs settings x (x.send i task) := .send (h task List.mem_cons_self)
      exact .head hsend (ih fun task' htask' => h task' (List.mem_cons_of_mem _ htask'))

end

end RoomReader.Pool
