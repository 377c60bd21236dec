import RoomReader.Text.Split

namespace RoomReader

/-!
# The place that is served

The paths of a server lie below a place, which is some segments of a path. A segment may end with a
name in braces; it is then open, and any text may follow what stands before the brace. A brace that
is written twice stands for itself.
-/

structure PlacePart where
  text : List Char
  /-- Whether any text may follow. -/
  isOpen : Bool := false
deriving DecidableEq, Repr

namespace PlacePart

/-- The characters of a segment, each with whether it is a brace that means something. -/
def marked : List Char → List (Char × Bool)
  | '{' :: '{' :: rest => ('{', false) :: marked rest
  | '}' :: '}' :: rest => ('}', false) :: marked rest
  | c :: rest => (c, c == '{' || c == '}') :: marked rest
  | [] => []

/-- Whether characters are the rest of a name after its opening brace. -/
def isName (cs : List (Char × Bool)) : Bool :=
  match cs.reverse with
  | ('}', true) :: name => !name.isEmpty && name.all fun (c, isBrace) => c != '*' && !isBrace
  | _ => false

/-- A segment as it is written; where its braces name nothing it stands for itself. -/
def ofChars (segment : List Char) : PlacePart :=
  let cs := marked segment
  let text := (cs.takeWhile (!·.2)).map Prod.fst
  match cs.dropWhile (!·.2) with
  | [] => { text }
  | ('{', _) :: rest => if isName rest then { text, isOpen := true } else { text := segment }
  | _ => { text := segment }

/-- What a segment has after the text of an open part, or nothing for a part that it is; `none` if
it does not fit. -/
def match? (part : PlacePart) (segment : List Char) : Option (Option (List Char)) :=
  if part.isOpen then
    if part.text.isPrefixOf segment then some (some (segment.drop part.text.length)) else none
  else if part.text = segment then some none
  else none

end PlacePart

/-- The segments of a place; there are none at the root. -/
abbrev Place := List PlacePart

namespace Place

/-- The place of a path without a slash at its end. -/
def ofText (path : String) : Place := ((splitAtEach '/' path.toList).drop 1).map PlacePart.ofChars

/-- What of a path lies below a place: the texts at the open parts, and the segments after it. The
last text of a path may not be empty. -/
def below? : Place → List (List Char) → Option (List (List Char) × List (List Char))
  | [], segments => some ([], segments)
  | _ :: _, [] => none
  | part :: place, segment :: segments => do
    let found ← part.match? segment
    if found = some [] ∧ segments = [] then none
    else
      let (texts, rest) ← below? place segments
      return (found.toList ++ texts, rest)

end Place

end RoomReader
