import RoomReader.Pool.Worker

namespace RoomReader

/-!
# Sweeps

A sweep first drops the rooms that were last accessed before a point in time, except the most
recently accessed ones, of which a number is always kept. Then every room that is left takes in
what is new.
-/

/-- What a sweep is to do: how long a room may stay without an access, in milliseconds, and how
many rooms a worker keeps in any case. -/
structure SweepRule where
  ttl : Int
  keepMin : Nat
deriving DecidableEq, Repr

structure SweepReport where
  workerId : Nat
  evicted : Nat
  remaining : Nat
  forwardFailures : Nat
deriving DecidableEq, Repr

structure SweepSummary where
  workers : Nat := 0
  evicted : Nat := 0
  remaining : Nat := 0
  forwardFailures : Nat := 0
deriving DecidableEq, Repr

/-- The number of the reports and the sums of what they count. -/
def SweepSummary.ofReports : List SweepReport → SweepSummary
  | [] => {}
  | r :: rest =>
    let s := ofReports rest
    { workers := s.workers + 1
      evicted := r.evicted + s.evicted
      remaining := r.remaining + s.remaining
      forwardFailures := r.forwardFailures + s.forwardFailures }

namespace SweepRule

/-- The longest span of time that a rule can state. -/
def maxTtl : Int := Int64.maxValue.toInt

/-- The first millisecond of the first year on record, 262144 BC. -/
def firstTime : Time := -8334601228800000

/-- The last millisecond of the last year on record, 262142. -/
def lastTime : Time := 8210266876799999

/-- The point in time before which a room is stale, if it is on record. -/
def cutoff? (rule : SweepRule) (now : Time) : Option Time :=
  let t := now - rule.ttl
  if firstTime ≤ t ∧ t ≤ lastTime then some t else none

/-- A rule from a number of seconds. -/
def ofSeconds (secs keepMin : Nat) : SweepRule :=
  { ttl := min (secs * 1000 : Int) maxTtl, keepMin }

end SweepRule

namespace Worker

/-- The rooms by their last access, the latest first. -/
def byAccess (rooms : List (String × Time)) : List (String × Time) :=
  rooms.mergeSort fun a b => b.2 ≤ a.2

/-- The rooms to be dropped. -/
def stale (rooms : List (String × Time)) (keepMin : Nat) (cutoff : Time) : List String :=
  (((byAccess rooms).drop keepMin).filter (·.2 < cutoff)).map (·.1)

def accesses (w : Worker) : List (String × Time) :=
  w.rooms.toList.map fun e => (e.1, e.2.lastAccess)

/-- Drops stale rooms and gives their number. -/
def evictStale (rule : SweepRule) (now : Time) (w : Worker) : Nat × Worker :=
  match rule.cutoff? now with
  | none => (0, w)
  | some cutoff =>
    let dropped := stale w.accesses rule.keepMin cutoff
    (dropped.length, { w with rooms := dropped.foldl (fun m room => m.erase room) w.rooms })

/-- Lets rooms take in what is new, one after another, and counts the failures. -/
def forwardAll : List String → Nat × Worker → Exchange (Nat × Worker)
  | [], state => return state
  | room :: rest, (failures, w) =>
    match w.rooms[room]? with
    | none => forwardAll rest (failures, w)
    | some r => do
      let (received, r) ← r.forwardPaginate
      let failures := match received with
        | .ok _ => failures
        | .error _ => failures + 1
      forwardAll rest (failures, { w with rooms := w.rooms.insert room r })

def sweep (rule : SweepRule) (now : Time) (workerId : Nat) (w : Worker) :
    Exchange (SweepReport × Worker) := do
  let (evicted, w) := w.evictStale rule now
  let (forwardFailures, w) ← forwardAll w.rooms.keys (0, w)
  return ({ workerId, evicted, remaining := w.rooms.size, forwardFailures }, w)

end Worker

end RoomReader
