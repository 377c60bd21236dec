import RoomReader.Json.Numeral
import RoomReader.Text.Ascii

namespace RoomReader

/-!
# JSON texts

`RawJson.ofBytes?` checks the grammar of a text and keeps its tree: strings still as their bytes
between the quotes, numerals as written, and every field of an object. What strings and numerals
mean is decided later and only where a value is used, so a value that nobody reads may hold any
bytes that fit the grammar.
-/

inductive RawJson where
  | null
  | bool (b : Bool)
  | number (n : Numeral)
  | str (body : Bytes)
  | arr (items : List RawJson)
  | obj (fields : List (Bytes × RawJson))

namespace RawJson

def isBlank (b : UInt8) : Bool := b == 0x20 || b == 0x09 || b == 0x0A || b == 0x0D

def skipBlank (s : Bytes) : Bytes := s.dropWhile isBlank

open Ascii (isDigit digitValue hexValue?)

/-- The bytes that may follow a backslash, `u` apart. -/
def isSimpleEscape (b : UInt8) : Bool :=
  b == 0x22 || b == 0x5C || b == 0x2F || b == 0x62 || b == 0x66 || b == 0x6E || b == 0x72
    || b == 0x74

/-- The body of a string up to its closing quote, in `found` backwards, and what follows it. -/
def scanString (found : Bytes) : Bytes → Option (Bytes × Bytes)
  | 0x22 :: rest => some (found.reverse, rest)
  | 0x5C :: 0x75 :: a :: b :: c :: d :: rest =>
    if (hexValue? a).isSome && (hexValue? b).isSome && (hexValue? c).isSome
        && (hexValue? d).isSome then
      scanString (d :: c :: b :: a :: 0x75 :: 0x5C :: found) rest
    else none
  | 0x5C :: e :: rest => if isSimpleEscape e then scanString (e :: 0x5C :: found) rest else none
  | b :: rest => if b < 0x20 || b == 0x5C then none else scanString (b :: found) rest
  | [] => none

/-- The digits at the start of a text. -/
def scanDigits (s : Bytes) : List Nat × Bytes :=
  ((s.takeWhile isDigit).map digitValue, s.dropWhile isDigit)

/-- The digits left of the point: no leading zero but `0` itself. -/
def scanWhole (s : Bytes) : Option (List Nat × Bytes) :=
  match scanDigits s with
  | ([], _) => none
  | (0 :: _ :: _, _) => none
  | found => some found

def scanFraction : Bytes → Option (Option (List Nat) × Bytes)
  | 0x2E :: rest =>
    match scanDigits rest with
    | ([], _) => none
    | (digits, rest) => some (some digits, rest)
  | rest => some (none, rest)

/-- The digits of an exponent as a number. -/
def scanPower (negative : Bool) (s : Bytes) : Option (Option Int × Bytes) :=
  match scanDigits s with
  | ([], _) => none
  | (digits, rest) =>
    let n : Nat := digits.foldl (fun v d => v * 10 + d) 0
    some (some (if negative then -(n : Int) else n), rest)

def scanExponent : Bytes → Option (Option Int × Bytes)
  | b :: rest =>
    if b == 0x65 || b == 0x45 then
      match rest with
      | 0x2B :: digits => scanPower false digits
      | 0x2D :: digits => scanPower true digits
      | digits => scanPower false digits
    else some (none, b :: rest)
  | [] => some (none, [])

def scanUnsigned (negative : Bool) (s : Bytes) : Option (RawJson × Bytes) := do
  let (whole, rest) ← scanWhole s
  let (fraction, rest) ← scanFraction rest
  let (exponent, rest) ← scanExponent rest
  return (.number ⟨negative, whole, fraction, exponent⟩, rest)

/-- A value that is neither a string nor a container. -/
def scanAtom : Bytes → Option (RawJson × Bytes)
  | 0x6E :: 0x75 :: 0x6C :: 0x6C :: rest => some (.null, rest)
  | 0x74 :: 0x72 :: 0x75 :: 0x65 :: rest => some (.bool true, rest)
  | 0x66 :: 0x61 :: 0x6C :: 0x73 :: 0x65 :: rest => some (.bool false, rest)
  | 0x2D :: rest => scanUnsigned true rest
  | s => scanUnsigned false s

mutual

/-- The value at the start of a text, after blanks. The first argument bounds the depth of the
recursion; twice the length of the text is enough. -/
def scanValue : Nat → Bytes → Option (RawJson × Bytes)
  | 0, _ => none
  | fuel + 1, s =>
    match skipBlank s with
    | 0x22 :: rest => (scanString [] rest).map fun (body, rest) => (.str body, rest)
    | 0x5B :: rest =>
      match skipBlank rest with
      | 0x5D :: rest => some (.arr [], rest)
      | rest => (scanItems fuel rest).map fun (items, rest) => (.arr items, rest)
    | 0x7B :: rest =>
      match skipBlank rest with
      | 0x7D :: rest => some (.obj [], rest)
      | rest => (scanFields fuel rest).map fun (fields, rest) => (.obj fields, rest)
    | s => scanAtom s

/-- The items of an array up to its end. -/
def scanItems : Nat → Bytes → Option (List RawJson × Bytes)
  | 0, _ => none
  | fuel + 1, s => do
    let (item, rest) ← scanValue fuel s
    match skipBlank rest with
    | 0x2C :: rest =>
      let (items, rest) ← scanItems fuel rest
      some (item :: items, rest)
    | 0x5D :: rest => some ([item], rest)
    | _ => none

/-- The fields of an object up to its end. -/
def scanFields : Nat → Bytes → Option (List (Bytes × RawJson) × Bytes)
  | 0, _ => none
  | fuel + 1, s => do
    let (name, rest) ← match skipBlank s with
      | 0x22 :: rest => scanString [] rest
      | _ => none
    let (value, rest) ← match skipBlank rest with
      | 0x3A :: rest => scanValue fuel rest
      | _ => none
    match skipBlank rest with
    | 0x2C :: rest =>
      let (fields, rest) ← scanFields fuel rest
      some ((name, value) :: fields, rest)
    | 0x7D :: rest => some ([(name, value)], rest)
    | _ => none

end

/-- The tree of a whole text; only blanks may follow the value. -/
def ofBytes? (s : Bytes) : Option RawJson :=
  match scanValue (2 * s.length + 2) s with
  | some (value, rest) => if (skipBlank rest).isEmpty then some value else none
  | none => none

end RawJson

end RoomReader
