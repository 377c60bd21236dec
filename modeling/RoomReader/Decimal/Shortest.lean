import RoomReader.Json.Basic

namespace RoomReader

/-!
# Shortest decimals

The shortest decimal of a positive double is the first that reads back, when decimals of one digit
are tried before those of two, and so on. Of two decimals of one length the nearer one is taken.
All comparisons are exact, on natural numbers.
-/

/-- A decimal `digits * 10 ^ exponent`. -/
structure Decimal where
  digits : Nat
  exponent : Int
deriving DecidableEq, Repr

namespace Decimal

/-- The positive reals that round to one double: `low`, `value` and `high` over the common
denominator `den`. The ends belong to it when `closed`. -/
structure Interval where
  low : Nat
  value : Nat
  high : Nat
  den : Nat
  closed : Bool

/-- The double `m * 2 ^ q`; the neighbour below is half as far away when `m` begins a binade. -/
def Interval.ofBinary (m : Nat) (q : Int) (beginsBinade : Bool) : Interval :=
  let below := if beginsBinade then 1 else 2
  let scale := Nat.pow 2 (q - 2).toNat
  { low := (4 * m - below) * scale
    value := 4 * m * scale
    high := (4 * m + 2) * scale
    den := Nat.pow 2 (2 - q).toNat
    closed := m % 2 = 0 }

/-- Whether `c * 10 ^ k` lies in the interval. -/
def Interval.holds (i : Interval) (c : Nat) (k : Int) : Bool :=
  let x := c * Nat.pow 10 k.toNat * i.den
  let scale := Nat.pow 10 (-k).toNat
  if i.closed then i.low * scale ≤ x && x ≤ i.high * scale
  else i.low * scale < x && x < i.high * scale

/-- The nearer of the two decimals next to the value on the grid of multiples of `10 ^ k`, if it
reads back, else the other one. -/
def Interval.onGrid (i : Interval) (k : Int) : Option Decimal :=
  let scaled := i.value * Nat.pow 10 (-k).toNat
  let unit := i.den * Nat.pow 10 k.toNat
  let down := scaled / unit
  let rest := scaled % unit
  let up := down + 1
  let downFirst := 2 * rest < unit || (2 * rest == unit && down % 2 == 0)
  let (near, far) := if downFirst then (down, up) else (up, down)
  if near ≠ 0 ∧ i.holds near k then some ⟨near, k⟩
  else if far ≠ 0 ∧ i.holds far k then some ⟨far, k⟩
  else none

/-- The number of decimal digits. -/
def width (n : Nat) : Nat := (Nat.toDigits 10 n).length

/-- The exponent of the first digit: `10 ^ magnitude ≤ value < 10 ^ (magnitude + 1)`. -/
def Interval.magnitude (i : Interval) : Int :=
  if i.den ≤ i.value then (width (i.value / i.den) : Int) - 1
  else
    -- the value is below one, and no double is below `10 ^ (-324)`
    let shift := (List.range 400).find? fun j => i.den ≤ i.value * Nat.pow 10 j
    Int.negOfNat (shift.getD 400)

/-- Without the zeros at the end. -/
def trim (d : Decimal) : Nat → Decimal
  | 0 => d
  | fuel + 1 =>
    if d.digits ≠ 0 ∧ d.digits % 10 = 0 then trim ⟨d.digits / 10, d.exponent + 1⟩ fuel
    else d

/-- Seventeen digits always read back. -/
def Interval.shortest (i : Interval) : Decimal :=
  let top := i.magnitude
  let found := (List.range 17).findSome? fun (n : Nat) => i.onGrid (top - n)
  (found.getD ⟨0, 0⟩).trim 20

end Decimal

namespace Double

open Decimal

def isNegative (d : Double) : Bool := d.bits >>> 63 == 1

/-- The shortest decimal of the magnitude. -/
def shortest (d : Double) : Decimal :=
  let fraction := (d.bits &&& 0xFFFFFFFFFFFFF).toNat
  let biased := ((d.bits >>> 52) &&& 0x7FF).toNat
  if biased = 0 then
    if fraction = 0 then ⟨0, 0⟩ else (Interval.ofBinary fraction (-1074) false).shortest
  else
    (Interval.ofBinary (0x10000000000000 + fraction) ((biased : Int) - 1075)
      (fraction = 0 ∧ 1 < biased)).shortest

end Double

end RoomReader
