import RoomReader.Homeserver.Error
import RoomReader.Homeserver.Response

namespace RoomReader

/-!
# Talking to a homeserver

An `Exchange` is what is done in one go: homeserver calls, each chosen by the answers so far, and
a result. A homeserver answers each call from a state of its own, or never comes back from it, and
then what was being done is lost.
-/

inductive Direction where
  | backward
  | forward
deriving DecidableEq, Repr

def Direction.text : Direction → String
  | backward => "b"
  | forward => "f"

inductive Call where
  | sync (room : String) (limit : Nat)
  | messages (room fromToken : String) (direction : Direction) (limit : Nat)
  | publicRooms
  | resolveAlias (roomAlias : String)
deriving DecidableEq, Repr

/-- What a call answers. -/
abbrev Call.Reply : Call → Type
  | sync .. => InitialSync
  | messages .. => Messages
  | publicRooms => PublicRooms
  | resolveAlias _ => RoomAlias

inductive Exchange (α : Type) where
  | done (a : α)
  | ask (c : Call) (next : Except ApiError c.Reply → Exchange α)

namespace Exchange

variable {α β : Type}

def bind : Exchange α → (α → Exchange β) → Exchange β
  | done a, f => f a
  | ask c next, f => ask c fun reply => (next reply).bind f

instance : Monad Exchange where
  pure := done
  bind := bind

/-- One call. -/
def call (c : Call) : Exchange (Except ApiError c.Reply) := ask c done

/-- The messages on one side of a token. -/
def messages (room fromToken : String) (direction : Direction) (limit : Nat) :
    Exchange (Except ApiError Messages) :=
  call (.messages room fromToken direction limit)

end Exchange

/-- `none` stands for a call that never comes back. -/
structure Homeserver (σ : Type) where
  respond : (c : Call) → σ → Option (Except ApiError c.Reply) × σ

namespace Exchange

variable {α β σ : Type}

/-- The result of an exchange with a homeserver and the homeserver's state after it. -/
def run (hs : Homeserver σ) : Exchange α → σ → Option α × σ
  | done a, s => (some a, s)
  | ask c next, s =>
    match hs.respond c s with
    | (some reply, s) => (next reply).run hs s
    | (none, s) => (none, s)

@[simp] theorem run_done (hs : Homeserver σ) (a : α) (s : σ) : (done a).run hs s = (some a, s) :=
  rfl

theorem run_bind (hs : Homeserver σ) (x : Exchange α) (f : α → Exchange β) (s : σ) :
    (x.bind f).run hs s =
      match x.run hs s with
      | (some a, s) => (f a).run hs s
      | (none, s) => (none, s) := by
  induction x generalizing s with
  | done a => rfl
  | ask c next ih =>
    simp only [bind, run]
    split <;> simp_all

end Exchange

end RoomReader
