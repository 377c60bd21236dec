namespace RoomReader

/-!
# JSON values

Integers from `-2 ^ 63` to `2 ^ 64 - 1` are kept exactly, every other number is a double. The
fields of an object are listed with each name once.
-/

/-- A finite IEEE 754 double, kept as its 64 bits: equality tells `-0.0` from `0.0`. -/
structure Double where
  bits : UInt64
deriving DecidableEq, Repr

inductive Json where
  | null
  | bool (b : Bool)
  | int (n : Int)
  | double (d : Double)
  | str (s : String)
  | arr (items : List Json)
  | obj (fields : List (String × Json))
deriving Inhabited, Repr

namespace Json

def ofOption {α : Type} (f : α → Json) : Option α → Json
  | none => null
  | some a => f a

def ofNat (n : Nat) : Json := int n

def ofInt64 (n : Int64) : Json := int n.toInt

def ofList {α : Type} (f : α → Json) (xs : List α) : Json := arr (xs.map f)

/-- An optional field: written only when it has a value. -/
def field? {α : Type} (name : String) (f : α → Json) : Option α → List (String × Json)
  | none => []
  | some a => [(name, f a)]

end Json

end RoomReader
