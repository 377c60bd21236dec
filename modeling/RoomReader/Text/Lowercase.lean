import RoomReader.Text.CaseTable

namespace RoomReader.Lowercase

/-!
# Lower case

Each character becomes its lower-case letter. The capital sigma has two of them: the final one
stands at the end of a word, that is after a cased character and not before one, where characters
that are ignorable for case are passed over on both sides.
-/

def isIgnorable (c : Char) : Bool := CaseTable.ignorable.contains c.toNat

def isCased (c : Char) : Bool := CaseTable.cased.contains c.toNat

/-- Whether the first character that is not ignorable has a case. -/
def startsCased (cs : List Char) : Bool :=
  match cs.dropWhile isIgnorable with
  | [] => false
  | c :: _ => isCased c

def capitalSigma : Char := Char.ofNat 0x3A3

def sigma : Char := Char.ofNat 0x3C3

def finalSigma : Char := Char.ofNat 0x3C2

/-- The lower case of one character away from any word. -/
def lowerChar (c : Char) : List Char :=
  if c.toNat < 0x80 then [c.toLower]
  else if c.toNat = 0x130 then ['i', Char.ofNat 0x307]
  else
    match CaseTable.lower? c.toNat with
    | some code => [Char.ofNat code]
    | none => [c]

/-- Goes on after `before`, the characters so far backwards. -/
def lowerFrom (before : List Char) : List Char → List Char
  | [] => []
  | c :: rest =>
    (if c = capitalSigma then
      [if startsCased before && !startsCased rest then finalSigma else sigma]
    else lowerChar c) ++ lowerFrom (c :: before) rest

def lower (s : String) : String := String.ofList (lowerFrom [] s.toList)

end RoomReader.Lowercase
