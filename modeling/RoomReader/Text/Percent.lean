import RoomReader.Text.Utf8

namespace RoomReader.Percent

/-!
# Percent coding

A byte of a set is written as a percent sign and two hexadecimal digits, and so is every byte
beyond ASCII. A percent sign without two digits after it stands for itself.
-/

/-- The bytes to be encoded. -/
abbrev EncodeSet := UInt8 → Bool

/-- The set with more bytes. -/
def EncodeSet.and (set : EncodeSet) (more : List UInt8) : EncodeSet := fun b =>
  set b || more.contains b

def controls : EncodeSet := fun b => b < 0x20 || b == 0x7F

/-- Space, quotation mark, angle brackets, and the grave accent. -/
def fragment : EncodeSet := controls.and [0x20, 0x22, 0x3C, 0x3E, 0x60]

/-- Space, quotation mark, hash, and angle brackets. -/
def query : EncodeSet := controls.and [0x20, 0x22, 0x23, 0x3C, 0x3E]

def specialQuery : EncodeSet := query.and [0x27]

/-- Moreover hash, question mark, and braces. -/
def path : EncodeSet := fragment.and [0x23, 0x3F, 0x7B, 0x7D]

/-- Moreover what has a meaning in an authority. -/
def userinfo : EncodeSet :=
  path.and [0x2F, 0x3A, 0x3B, 0x3D, 0x40, 0x5B, 0x5C, 0x5D, 0x5E, 0x7C]

/-- Moreover slash and percent sign. -/
def pathSegment : EncodeSet := path.and [0x2F, 0x25]

def specialPathSegment : EncodeSet := pathSegment.and [0x5C]

def encodeByte (b : UInt8) : List Char :=
  ['%', Ascii.upperHexDigit (b.toNat / 16), Ascii.upperHexDigit (b.toNat % 16)]

def encodeBytes (set : EncodeSet) (b : Bytes) : List Char :=
  b.flatMap fun x => if 0x80 ≤ x || set x then encodeByte x else [Char.ofNat x.toNat]

def encode (set : EncodeSet) (s : String) : String :=
  String.ofList (encodeBytes set (Utf8.encode s))

def decode : Bytes → Bytes
  | [] => []
  | 0x25 :: a :: b :: rest =>
    match Ascii.hexValue? a, Ascii.hexValue? b with
    | some x, some y => UInt8.ofNat (x * 16 + y) :: decode rest
    | _, _ => 0x25 :: decode (a :: b :: rest)
  | b :: rest => b :: decode rest

/-- The text that a percent-coded text stands for, if it stands for one. -/
def decodeText? (s : String) : Option String := Utf8.decode? (decode (Utf8.encode s))

end RoomReader.Percent
