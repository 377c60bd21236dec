import RoomReader.Text.Percent
import RoomReader.Text.Split

namespace RoomReader.Form

/-!
# Form coding

Letters, digits and four signs stand for themselves, a plus sign for a space, and all else is
percent-coded. Pairs are joined by ampersands.
-/

def isPlain (b : UInt8) : Bool :=
  Ascii.isAlpha b || Ascii.isDigit b || b == 0x2A || b == 0x2D || b == 0x2E || b == 0x5F

def encodeByte (b : UInt8) : List Char :=
  if b == 0x20 then ['+']
  else if isPlain b then [Char.ofNat b.toNat]
  else Percent.encodeByte b

def encode (s : String) : String := String.ofList ((Utf8.encode s).flatMap encodeByte)

def encodePair (name value : String) : String := encode name ++ "=" ++ encode value

def encodePairs (pairs : List (String × String)) : String :=
  String.intercalate "&" (pairs.map fun p => encodePair p.1 p.2)

/-- Name and value of a pair; without an equals sign the value is empty. -/
def splitPair (b : Bytes) : Bytes × Bytes :=
  (b.takeWhile (· != 0x3D), (b.dropWhile (· != 0x3D)).drop 1)

def decode (b : Bytes) : String :=
  Utf8.decodeLossy (Percent.decode (b.map fun x => if x == 0x2B then 0x20 else x))

/-- The pairs of a query; empty parts are no pairs. -/
def decodePairs (query : Bytes) : List (String × String) :=
  ((splitAtEach 0x26 query).filter (! ·.isEmpty)).map fun part =>
    let (name, value) := splitPair part
    (decode name, decode value)

end RoomReader.Form
