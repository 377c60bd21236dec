import RoomReader.Homeserver.Log

namespace RoomReader

/-!
# A homeserver that fails on demand

It answers from its logs unless told otherwise: as long as a fault is set every call meets it, and
else the next answer that was laid out for the call is given. All calls are noted.
-/

inductive Fault where
  | fails (e : ApiError)
  /-- The call never comes back. -/
  | hangs
deriving DecidableEq, Repr

/-- An answer laid out for a call to come. -/
inductive Planned (α : Type) where
  | usual
  | fault (f : Fault)
  | reply (a : α)

def Fault.answer {α : Type} : Fault → Option (Except ApiError α)
  | fails e => some (.error e)
  | hangs => none

/-- The answers laid out, the next one first: room by room where a call is for a room. -/
structure Plan where
  sync : StringMap (List (Planned InitialSync)) := ∅
  messages : StringMap (List (Planned Messages)) := ∅
  publicRooms : List (Planned PublicRooms) := []
  resolveAlias : List (Planned RoomAlias) := []

namespace Plan

def queued {α : Type} (m : StringMap (List α)) (room : String) : List α := m[room]?.getD []

/-- What is laid out for a call, and the plan without it. -/
def next (p : Plan) : (c : Call) → Planned c.Reply × Plan
  | .sync room _ =>
    match queued p.sync room with
    | [] => (.usual, p)
    | a :: rest => (a, { p with sync := p.sync.insert room rest })
  | .messages room _ _ _ =>
    match queued p.messages room with
    | [] => (.usual, p)
    | a :: rest => (a, { p with messages := p.messages.insert room rest })
  | .publicRooms =>
    match p.publicRooms with
    | [] => (.usual, p)
    | a :: rest => (a, { p with publicRooms := rest })
  | .resolveAlias _ =>
    match p.resolveAlias with
    | [] => (.usual, p)
    | a :: rest => (a, { p with resolveAlias := rest })

def addSync (p : Plan) (room : String) (more : List (Planned InitialSync)) : Plan :=
  { p with sync := p.sync.insert room (queued p.sync room ++ more) }

def addMessages (p : Plan) (room : String) (more : List (Planned Messages)) : Plan :=
  { p with messages := p.messages.insert room (queued p.messages room ++ more) }

end Plan

structure ScriptedServer where
  logs : LogServer := {}
  fault : Option Fault := none
  plan : Plan := {}
  /-- The calls so far, the latest first. -/
  calls : List Call := []

namespace ScriptedServer

def respond (c : Call) (s : ScriptedServer) : Option (Except ApiError c.Reply) × ScriptedServer :=
  let s := { s with calls := c :: s.calls }
  match s.fault with
  | some f => (f.answer, s)
  | none =>
    let (planned, plan) := s.plan.next c
    let s := { s with plan }
    match planned with
    | .usual => (some (s.logs.answer c), s)
    | .fault f => (f.answer, s)
    | .reply a => (some (.ok a), s)

def homeserver : Homeserver ScriptedServer := ⟨respond⟩

end ScriptedServer

end RoomReader
