import RoomReader.Pool.Sweep

namespace RoomReader

/-!
# The pool

Every room belongs to exactly one worker, and its jobs are done by that worker in the order in
which they come. A worker dies of a homeserver call that never comes back; from then on it does no
job, and the rooms that it held are gone.
-/

/-- `none` stands for a worker that died. -/
structure Pool where
  workers : List (Option Worker)

/-- What becomes of a job that is sent to a worker. -/
inductive Outcome (α : Type) where
  | replied (result : Except RoomError α)
  /-- The worker died of the job. -/
  | died
  /-- The worker was dead already. -/
  | refused

namespace Outcome

/-- What the requester sees. -/
def toExcept {α : Type} : Outcome α → Except RoomError α
  | replied result => result
  | died => .error .workerUnavailable
  | refused => .error .workerUnavailable

end Outcome

namespace Pool

variable {σ : Type}

/-- A pool of at least one worker, all of them without rooms. -/
def ofSize (numWorkers : Nat) : Pool := ⟨List.replicate (max numWorkers 1) (some {})⟩

def numWorkers (p : Pool) : Nat := p.workers.length

def workerIndex (p : Pool) (room : String) : Nat := Shard.ofRoom room p.numWorkers

def setWorker (p : Pool) (i : Nat) (w : Option Worker) : Pool := ⟨p.workers.set i w⟩

@[simp] theorem numWorkers_setWorker (p : Pool) (i : Nat) (w : Option Worker) :
    (p.setWorker i w).numWorkers = p.numWorkers :=
  List.length_set

@[simp] theorem workerIndex_setWorker (p : Pool) (i : Nat) (w : Option Worker) (room : String) :
    (p.setWorker i w).workerIndex room = p.workerIndex room := by
  rw [workerIndex, workerIndex, numWorkers_setWorker]

/-- Sends a job to the worker that owns `route`. -/
def dispatch (hs : Homeserver σ) (settings : RoomSettings) (now : Time) (route : String)
    (job : Job) (p : Pool) (s : σ) : Outcome job.Reply × Pool × σ :=
  let i := p.workerIndex route
  match p.workers[i]?.join with
  | none => (.refused, p, s)
  | some w =>
    match (w.handle settings now job).run hs s with
    | (some (result, w), s) => (.replied result, p.setWorker i (some w), s)
    | (none, s) => (.died, p.setWorker i none, s)

/-- Sends a job to the worker that owns its room. -/
def request (hs : Homeserver σ) (settings : RoomSettings) (now : Time) (job : Job) (p : Pool)
    (s : σ) : Except RoomError job.Reply × Pool × σ :=
  let (outcome, p, s) := p.dispatch hs settings now job.room job s
  (outcome.toExcept, p, s)

/-- Sweeps the workers one after another. A worker that is dead or dies of it gives no report. -/
def sweepFrom (hs : Homeserver σ) (rule : SweepRule) (now : Time) :
    Nat → List (Option Worker) → σ → List SweepReport × List (Option Worker) × σ
  | _, [], s => ([], [], s)
  | i, none :: rest, s =>
    let (reports, rest, s) := sweepFrom hs rule now (i + 1) rest s
    (reports, none :: rest, s)
  | i, some w :: rest, s =>
    match (w.sweep rule now i).run hs s with
    | (some (report, w), s) =>
      let (reports, rest, s) := sweepFrom hs rule now (i + 1) rest s
      (report :: reports, some w :: rest, s)
    | (none, s) =>
      let (reports, rest, s) := sweepFrom hs rule now (i + 1) rest s
      (reports, none :: rest, s)

/-- Sweeps all workers; the reports come in the order of the workers. -/
def sweep (hs : Homeserver σ) (rule : SweepRule) (now : Time) (p : Pool) (s : σ) :
    List SweepReport × Pool × σ :=
  let (reports, workers, s) := sweepFrom hs rule now 0 p.workers s
  (reports, ⟨workers⟩, s)

end Pool

end RoomReader
