import RoomReader.Text.Folding.Table
import RoomReader.Text.Lowercase
import RoomReader.Text.Ranges
import RoomReader.Text.Split

namespace RoomReader.Folding

/-!
# Folding

Names that differ only in how their characters are written are the same: capital letters become
small ones, letters and digits of another width or style the usual ones, ligatures their letters,
and some characters are dropped.
-/

/-- What is not seen: soft hyphen, fillers, joiners of words, variation selectors and the like. -/
def dropped : Ranges :=
  [
    (0xAD, 0xAD), (0x34F, 0x34F), (0x115F, 0x1160), (0x17B4, 0x17B5), (0x180B, 0x180F),
    (0x200B, 0x200B), (0x2060, 0x2064), (0x206A, 0x206F), (0x3164, 0x3164), (0xFE00, 0xFE0F),
    (0xFEFF, 0xFEFF), (0xFFA0, 0xFFA0), (0x1BCA0, 0x1BCA3), (0x1D173, 0x1D17A),
    (0xE0100, 0xE01EF)
  ]

/-- The rows of the table with their words told apart. -/
def rows : List (Nat × Array (List Char)) :=
  table.map fun (first, words) => (first, (splitAtEach ' ' words.toList).toArray)

/-- What the table says a code point stands for. -/
def word? (code : Nat) : Option (List Char) :=
  rows.findSome? fun (first, words) => if first ≤ code then words[code - first]? else none

/-- Letters, digits and signs of full width. -/
def fullWidth : Ranges := [(0xFF01, 0xFF5E)]

/-- Letters whose small ones are not used in names. -/
def keptCapitals : Ranges := [(0x13A0, 0x13F5)]

/-- What a character stands for. -/
def foldChar (c : Char) : List Char :=
  if c.toNat < 0x80 then [c.toLower]
  else if dropped.contains c.toNat then []
  else if fullWidth.contains c.toNat then [(Char.ofNat (c.toNat - 0xFF01 + 0x21)).toLower]
  else if keptCapitals.contains c.toNat then [c]
  else (word? c.toNat).getD (Lowercase.lowerChar c)

def fold (text : List Char) : List Char := text.flatMap foldChar

end RoomReader.Folding
