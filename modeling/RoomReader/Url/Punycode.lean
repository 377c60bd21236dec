namespace RoomReader.Url.Punycode

/-!
# Punycode

A list of code points as ASCII: first the ASCII ones, then a hyphen if there are any, then the
others as distances in variable-length digits of base 36, in the order of their values.
-/

/-- The digit of a number below 36: letters first. -/
def digitChar (d : Nat) : Char := Char.ofNat (if d < 26 then 0x61 + d else 0x30 + d - 26)

def digitValue? (c : Char) : Option Nat :=
  if c.isLower then some (c.toNat - 0x61)
  else if c.isUpper then some (c.toNat - 0x41)
  else if c.isDigit then some (c.toNat - 0x30 + 26)
  else none

def threshold (k bias : Nat) : Nat :=
  if k ≤ bias then 1 else if bias + 26 ≤ k then 26 else k - bias

def adaptLoop (delta k : Nat) : Nat × Nat :=
  if 455 < delta then adaptLoop (delta / 35) (k + 36) else (delta, k)
termination_by delta
decreasing_by exact Nat.div_lt_self (by omega) (by omega)

/-- The bias after a distance. -/
def adapt (delta points : Nat) (first : Bool) : Nat :=
  let delta := if first then delta / 700 else delta / 2
  let (delta, k) := adaptLoop (delta + delta / points) 0
  k + 36 * delta / (delta + 38)

/-- The digits of a distance; the fuel is more than their number. -/
def encodeNumber (bias : Nat) : Nat → Nat → Nat → List Char
  | 0, _, _ => []
  | fuel + 1, k, q =>
    let t := threshold k bias
    if q < t then [digitChar q]
    else digitChar (t + (q - t) % (36 - t)) :: encodeNumber bias fuel (k + 36) ((q - t) / (36 - t))

structure Encoder where
  out : List Char
  delta : Nat
  bias : Nat
  handled : Nat

/-- Sees one character of the label while code point `m` is handled. -/
def Encoder.see (basic m : Nat) (e : Encoder) (c : Char) : Encoder :=
  if c.toNat < m then { e with delta := e.delta + 1 }
  else if c.toNat = m then
    { out := e.out ++ encodeNumber e.bias (e.delta + 2) 36 e.delta
      delta := 0
      bias := adapt e.delta (e.handled + 1) (e.handled = basic)
      handled := e.handled + 1 }
  else e

/-- Handles the code points in the order of their values, from `n` on. -/
def encodePoints (label : List Char) (basic : Nat) : List Nat → Nat → Encoder → Encoder
  | [], _, e => e
  | m :: rest, n, e =>
    let e := label.foldl (Encoder.see basic m)
      { e with delta := e.delta + (m - n) * (e.handled + 1) }
    encodePoints label basic rest (m + 1) { e with delta := e.delta + 1 }

def encode (label : List Char) : List Char :=
  let plain := label.filter (·.toNat < 0x80)
  let points := ((label.map Char.toNat).filter (0x80 ≤ ·)).mergeSort.eraseDups
  let start := plain ++ (if plain.isEmpty then [] else ['-'])
  (encodePoints label plain.length points 0x80 ⟨start, 0, 72, plain.length⟩).out

/-- Distances and weights stay below this. -/
def bound : Nat := 0x100000000

/-- Reads a distance: its value and the digits after it. -/
def decodeNumber? (bias : Nat) : List Char → Nat → Nat → Nat → Option (Nat × List Char)
  | [], _, _, _ => none
  | c :: rest, k, weight, value => do
    let d ← digitValue? c
    let t := threshold k bias
    let value := value + d * weight
    let next := weight * (36 - t)
    if bound ≤ value then none
    else if d < t then some (value, rest)
    else if bound ≤ next then none
    else decodeNumber? bias rest (k + 36) next value

/-- Reads the distances; the fuel is more than the number of digits. -/
def decodePoints? : Nat → List Char → Nat → Nat → Nat → List Char → Option (List Char)
  | 0, _, _, _, _, _ => none
  | _, [], _, _, _, out => some out
  | fuel + 1, digits, n, i, bias, out => do
    let (distance, rest) ← decodeNumber? bias digits 36 1 0
    let count := out.length + 1
    let position := i + distance
    let code := n + position / count
    if code < 0x110000 ∧ ¬(0xD800 ≤ code ∧ code < 0xE000) then
      let place := position % count
      decodePoints? fuel rest code (place + 1) (adapt distance count (i == 0))
        (out.take place ++ Char.ofNat code :: out.drop place)
    else none

/-- The label that ASCII text stands for. A hyphen with nothing before it divides nothing. -/
def decode? (text : List Char) : Option (List Char) :=
  let afterLast := (text.reverse.takeWhile (· ≠ '-')).reverse
  let plain := text.take (text.length - afterLast.length - 1)
  let digits := if plain.isEmpty then text else afterLast
  if plain.any (0x80 ≤ ·.toNat) then none
  else decodePoints? (digits.length + 1) digits 0x80 0 72 plain

end RoomReader.Url.Punycode
