import RoomReader.Text.Ascii

namespace RoomReader.Utf8

/-!
# UTF-8

A text and its bytes. Bytes that are no text either fail to decode or are replaced: each longest
start of a character that is broken off becomes one replacement character.
-/

def encode (s : String) : Bytes := s.toUTF8.data.toList

def decode? (b : Bytes) : Option String := String.fromUTF8? ⟨b.toArray⟩

theorem decode?_encode (s : String) : decode? (encode s) = some s := by
  simp [decode?, encode, String.fromUTF8?, String.toUTF8, s.isValidUTF8]
  rfl

/-- A character that has begun: the value so far, how many bytes are missing, and the range that
the next byte has to be in. -/
structure Partial where
  value : Nat
  missing : Nat
  low : UInt8
  high : UInt8

def replacement : Char := Char.ofNat 0xFFFD

/-- What a byte gives that begins anew: characters, and a character that has begun. -/
def start (b : UInt8) : List Char × Option Partial :=
  if b < 0x80 then ([Char.ofNat b.toNat], none)
  else if 0xC2 ≤ b && b ≤ 0xDF then ([], some ⟨b.toNat - 0xC0, 1, 0x80, 0xBF⟩)
  else if 0xE0 ≤ b && b ≤ 0xEF then
    ([], some ⟨b.toNat - 0xE0, 2, if b == 0xE0 then 0xA0 else 0x80,
      if b == 0xED then 0x9F else 0xBF⟩)
  else if 0xF0 ≤ b && b ≤ 0xF4 then
    ([], some ⟨b.toNat - 0xF0, 3, if b == 0xF0 then 0x90 else 0x80,
      if b == 0xF4 then 0x8F else 0xBF⟩)
  else ([replacement], none)

def step : Option Partial → UInt8 → List Char × Option Partial
  | none, b => start b
  | some p, b =>
    if p.low ≤ b && b ≤ p.high then
      let value := p.value * 64 + (b.toNat - 0x80)
      if p.missing ≤ 1 then ([Char.ofNat value], none)
      else ([], some ⟨value, p.missing - 1, 0x80, 0xBF⟩)
    else
      let (found, begun) := start b
      (replacement :: found, begun)

/-- Reads on after a character that may have begun. -/
def decodeFrom (begun : Option Partial) : Bytes → List Char
  | [] => if begun.isSome then [replacement] else []
  | b :: rest => (step begun b).1 ++ decodeFrom (step begun b).2 rest

/-- The text of any bytes, broken characters replaced. -/
def decodeLossy (b : Bytes) : String := String.ofList (decodeFrom none b)

end RoomReader.Utf8
