import RoomReader.Text.BidiClass
import RoomReader.Text.Folding.Basic
import RoomReader.Text.Joining
import RoomReader.Url.Domain.Table
import RoomReader.Url.Punycode

namespace RoomReader.Url.Domain

/-!
# Domain names

A domain name is folded and composed, and its labels are told apart at the full stops. A label that
is not ASCII is written in Punycode, and a label that claims to be Punycode has to stand for one
that would be written so.
-/

def isAscii (label : List Char) : Bool := label.all (·.toNat < 0x80)

/-- The form in which names are compared. -/
def normalize (name : List Char) : List Char :=
  if isAscii name then name.map Char.toLower else Composition.compose (Folding.fold name)

/-- ASCII that a name must not hold: controls, space, percent sign, and what delimits a host. -/
def isForbidden (c : Char) : Bool :=
  let n := c.toNat
  n ≤ 0x20 || n == 0x7F
    || ['#', '%', '/', ':', '<', '>', '?', '@', '[', '\\', ']', '^', '|'].contains c

/-- Whether a character may stand in a normal name. -/
def isAllowed (c : Char) : Bool :=
  if c.toNat < 0x80 then !isForbidden c else !refused.contains c.toNat

/-- The greatest length of a label outside ASCII. -/
def maxLength : Nat := 1000

/-- Whether a normal label may stand in a name. -/
def isValid (label : List Char) : Bool :=
  label.all isAllowed
    && (isAscii label
      || !(label.head?.any Mark.isMark) && Joining.isJoined label
        && decide (label.length ≤ maxLength))

/-- A label as it is read, and as it is written in ASCII. -/
structure Label where
  text : List Char
  written : List Char
deriving DecidableEq, Repr

/-- What Punycode starts with. -/
def lead : List Char := ['x', 'n', '-', '-']

/-- The greatest length of a label in Punycode, without its start. -/
def maxPunycode : Nat := 2000

/-- The label that a label in Punycode stands for: a normal one outside ASCII. -/
def decode? (punycode : List Char) : Option (List Char) :=
  if maxPunycode < punycode.length || punycode.getLast?.all (· == '-') then none
  else
    match Punycode.decode? punycode with
    | none => none
    | some text => if normalize text = text && !text.contains '.' then some text else none

/-- A normal label without full stops. -/
def Label.ofText? (label : List Char) : Option Label :=
  let read? :=
    if lead.isPrefixOf label then
      if isAscii label then (decode? (label.drop lead.length)).map fun text => ⟨text, label⟩
      else none
    else if isAscii label then some ⟨label, label⟩
    else some ⟨label, lead ++ Punycode.encode label⟩
  read?.filter (isValid ·.text)

/-- Whether the labels of a name keep to one direction each, if it matters. -/
def isConsistent (labels : List Label) : Bool :=
  let classes := labels.map fun l => l.text.map BidiClass.ofChar
  !classes.any (·.any BidiClass.isRightToLeft) || classes.all BidiClass.isConsistent

/-- The name in ASCII, if it is one. -/
def toAscii? (name : List Char) : Option (List Char) := do
  let labels ← (splitAtEach '.' (normalize name)).mapM Label.ofText?
  if isConsistent labels then some (['.'].intercalate (labels.map (·.written))) else none

end RoomReader.Url.Domain
