import RoomReader.Count
import RoomReader.Json.Basic

namespace RoomReader

/-!
# JSON numerals

A numeral without fraction and exponent is an integer when it fits 64 bits; `-0` and all others are
doubles. Only as many leading digits count as fit 64 bits; the significand is then scaled by one
power of ten, or by several where one does not reach.
-/

/-- A numeral as it is written. Digits are values from 0 to 9. -/
structure Numeral where
  negative : Bool
  whole : List Nat
  fraction : Option (List Nat)
  exponent : Option Int
deriving Repr

namespace Numeral

/-- Digits collected so far, and whether one has been left out for want of room. -/
structure Significand where
  value : Nat
  exponent : Int
  full : Bool

def Significand.fits (s : Significand) (digit : Nat) : Bool :=
  s.value * 10 + digit ≤ Count.limit

/-- A digit left of the point; one that does not fit still moves the point. -/
def Significand.addWhole (s : Significand) (digit : Nat) : Significand :=
  if !s.full && s.fits digit then { s with value := s.value * 10 + digit }
  else { s with exponent := s.exponent + 1, full := true }

/-- A digit right of the point. -/
def Significand.addFraction (s : Significand) (digit : Nat) : Significand :=
  if !s.full && s.fits digit then
    { s with value := s.value * 10 + digit, exponent := s.exponent - 1 }
  else { s with full := true }

def significand (n : Numeral) : Significand :=
  let left := n.whole.foldl Significand.addWhole ⟨0, 0, false⟩
  let right := (n.fraction.getD []).foldl Significand.addFraction { left with full := false }
  { right with exponent := right.exponent + n.exponent.getD 0 }

def powerOfTen (k : Nat) : Float := Float.ofScientific 1 false k

/-- `f * 10 ^ e`, or `none` where that passes the largest double. -/
def scale (f : Float) (e : Int) : Option Float :=
  if f == 0 then some f
  else if -308 ≤ e then
    if 308 < e then none
    else if 0 ≤ e then
      let r := f * powerOfTen e.toNat
      if r.isInf then none else some r
    else some (f / powerOfTen (-e).toNat)
  else scale (f / powerOfTen 308) (e + 308)
termination_by e.natAbs
decreasing_by omega

def toDouble? (n : Numeral) : Option Double := do
  let s := n.significand
  let f ← scale s.value.toUInt64.toFloat s.exponent
  return ⟨(if n.negative then -f else f).toBits⟩

/-- The integer that is written, if the numeral is one. -/
def toInt? (n : Numeral) : Option Int :=
  if n.fraction.isSome || n.exponent.isSome then none
  else
    let magnitude : Nat := n.whole.foldl (fun v d => v * 10 + d) 0
    if n.negative then
      if 0 < magnitude ∧ magnitude ≤ 9223372036854775808 then some (-(magnitude : Int)) else none
    else if magnitude ≤ Count.limit then some magnitude
    else none

def toJson? (n : Numeral) : Option Json :=
  match n.toInt? with
  | some i => some (.int i)
  | none => n.toDouble?.map .double

end Numeral

end RoomReader
