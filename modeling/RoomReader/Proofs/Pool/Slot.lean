import RoomReader.Pool.Sweep
import RoomReader.Proofs.Calls

namespace RoomReader

/-!
# A room on its own

A slot is a worker that only ever serves one room: it is sent that room's requests, is told when to
take in what is new, and is told when to drop the room. It has no clock, because nothing that it
replies depends on the time of an access. A worker that holds many rooms shows, in each of them,
the slot of that room.
-/

structure Replied where
  job : Job
  result : Except RoomError job.Reply

namespace Slot

inductive Op
  | request (job : Job)
  | forward
  | evict
deriving DecidableEq, Repr

def Op.act (settings : RoomSettings) (room : String) :
    Op → Worker → Exchange (List Replied × Worker)
  | request job, v => do
    let (result, v) ← v.handle settings 0 job
    return ([⟨job, result⟩], v)
  | forward, v => do
    let (_, v) ← Worker.forwardAll [room] (0, v)
    return ([], v)
  | evict, v => return ([], { v with rooms := v.rooms.erase room })

/-- Does one operation after another and collects the replies. -/
def serve (settings : RoomSettings) (room : String) :
    List Op → Worker → Exchange (List Replied × Worker)
  | [], v => return ([], v)
  | op :: ops, v => do
    let (replies, v) ← op.act settings room v
    let (rest, v) ← serve settings room ops v
    return (replies ++ rest, v)

/-- The replies so far, before those that are still to come. -/
def prepend (replies : List Replied) (x : Exchange (List Replied × Worker)) :
    Exchange (List Replied × Worker) := do
  let (rest, v) ← x
  return (replies ++ rest, v)

@[simp] theorem serve_nil (settings : RoomSettings) (room : String) (v : Worker) :
    serve settings room [] v = .done ([], v) := rfl

@[simp] theorem prepend_done (replies rest : List Replied) (v : Worker) :
    prepend replies (.done (rest, v)) = .done (replies ++ rest, v) := rfl

/-- Does more operations after what is left to be done. -/
def andThen (settings : RoomSettings) (room : String) (x : Exchange (List Replied × Worker))
    (ops : List Op) : Exchange (List Replied × Worker) := do
  let (replies, v) ← x
  prepend replies (serve settings room ops v)

section

variable {settings : RoomSettings} {room : String} {x y : Exchange (List Replied × Worker)}

@[simp] theorem prepend_nil (x : Exchange (List Replied × Worker)) : prepend [] x = x :=
  Exchange.bind_done x

theorem prepend_prepend (xs ys : List Replied) (x : Exchange (List Replied × Worker)) :
    prepend xs (prepend ys x) = prepend (xs ++ ys) x := by
  simp only [prepend, Exchange.bind_assoc, Exchange.pure_eq_done, Exchange.done_bind,
    List.append_assoc]

@[simp] theorem andThen_done (replies : List Replied) (v : Worker) (ops : List Op) :
    andThen settings room (.done (replies, v)) ops = prepend replies (serve settings room ops v) :=
  rfl

@[simp] theorem andThen_nil (x : Exchange (List Replied × Worker)) :
    andThen settings room x [] = x := by
  have hdone (p : List Replied × Worker) : prepend p.1 (serve settings room [] p.2) = .done p := by
    simp
  change (x >>= fun p => prepend p.1 (serve settings room [] p.2)) = x
  rw [funext hdone, Exchange.bind_done]

theorem andThen_prepend (replies : List Replied) (x : Exchange (List Replied × Worker))
    (ops : List Op) :
    andThen settings room (prepend replies x) ops =
      prepend replies (andThen settings room x ops) := by
  simp only [andThen, prepend, Exchange.bind_assoc, Exchange.pure_eq_done, Exchange.done_bind,
    List.append_assoc]

theorem serve_cons (op : Op) (ops : List Op) (v : Worker) :
    serve settings room (op :: ops) v = andThen settings room (op.act settings room v) ops := rfl

theorem serve_singleton (op : Op) (v : Worker) :
    serve settings room [op] v = op.act settings room v :=
  andThen_nil _

theorem serve_evict (ops : List Op) (v : Worker) :
    serve settings room (.evict :: ops) v =
      serve settings room ops { v with rooms := v.rooms.erase room } :=
  prepend_nil _

theorem andThen_andThen_of_serve {ops ops' : List Op}
    (h : ∀ v, serve settings room (ops ++ ops') v =
      andThen settings room (serve settings room ops v) ops')
    (x : Exchange (List Replied × Worker)) :
    andThen settings room (andThen settings room x ops) ops' =
      andThen settings room x (ops ++ ops') := by
  have hpart (p : List Replied × Worker) :
      andThen settings room (prepend p.1 (serve settings room ops p.2)) ops' =
        prepend p.1 (serve settings room (ops ++ ops') p.2) := by
    rw [andThen_prepend, h]
  exact (Exchange.bind_assoc ..).trans (congrArg (x >>= ·) (funext hpart))

theorem serve_append (ops ops' : List Op) (v : Worker) :
    serve settings room (ops ++ ops') v =
      andThen settings room (serve settings room ops v) ops' := by
  induction ops generalizing v with
  | nil => rw [serve_nil, andThen_done, prepend_nil, List.nil_append]
  | cons op ops ih =>
      rw [List.cons_append, serve_cons, serve_cons, andThen_andThen_of_serve ih]

theorem andThen_andThen (x : Exchange (List Replied × Worker)) (ops ops' : List Op) :
    andThen settings room (andThen settings room x ops) ops' =
      andThen settings room x (ops ++ ops') :=
  andThen_andThen_of_serve (serve_append ops ops') x

theorem serve_empty {ops : List Op} (h : ∀ job, .request job ∉ ops) :
    serve settings room ops {} = .done ([], {}) := by
  induction ops with
  | nil => rfl
  | cons op ops ih =>
      have hrest := ih fun job hjob => h job (List.mem_cons_of_mem _ hjob)
      cases op with
      | request job => exact absurd List.mem_cons_self (h job)
      | forward =>
          have hact : Op.forward.act settings room {} = .done ([], {}) := by
            simp [Op.act, Worker.forwardAll]
          rw [serve_cons, hact, andThen_done, prepend_nil, hrest]
      | evict =>
          have hempty : ({} : Worker).rooms.erase room = ∅ := by simp
          rw [serve_evict, hempty, hrest]

theorem eq_nil_of_prepend_eq_done {replies : List Replied} {v : Worker}
    (h : prepend replies x = .done ([], v)) : replies = [] := by
  cases x with
  | done p =>
      have hreplies : replies ++ p.1 = [] := congrArg Prod.fst (Exchange.done.inj h)
      exact (List.append_eq_nil_iff.1 hreplies).1
  | ask c next => cases h

end

end Slot

end RoomReader
