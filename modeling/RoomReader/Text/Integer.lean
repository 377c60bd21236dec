import RoomReader.Count

namespace RoomReader.Integer

/-!
# Integers in decimal

Digits, with zeros in front if need be and one sign before them. A number beyond 64 bits is not
read.
-/

def natOfDigits? (cs : List Char) : Option Nat :=
  if cs.isEmpty || !cs.all Char.isDigit then none
  else some (cs.foldl (fun n c => n * 10 + (c.toNat - '0'.toNat)) 0)

/-- The digits after a plus sign, or the whole text. -/
def dropPlus : List Char → List Char
  | '+' :: rest => rest
  | cs => cs

/-- A count; a minus sign is refused even before zero. -/
def count? (s : String) : Option Nat :=
  (natOfDigits? (dropPlus s.toList)).filter (· ≤ Count.limit)

/-- An integer that fits 64 bits with a sign. -/
def int64? (s : String) : Option Int :=
  let value : Option Int := match s.toList with
    | '-' :: rest => (natOfDigits? rest).map fun n => -(n : Int)
    | cs => (natOfDigits? (dropPlus cs)).map fun n => (n : Int)
  value.filter fun n => Int64.minValue.toInt ≤ n && n ≤ Int64.maxValue.toInt

end RoomReader.Integer
