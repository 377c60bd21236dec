import RoomReader.Text.Form
import RoomReader.Text.Integer

namespace RoomReader

/-!
# Queries

The keys that a page knows come at most once, and numbers have to be numbers. Other keys are passed
over.
-/

namespace Query

abbrev Pairs := List (String × String)

def pairs (query : String) : Pairs := Form.decodePairs (Utf8.encode query)

/-- The value of a key, if there is one. No answer is given for a key that comes again. -/
def text? (pairs : Pairs) (key : String) : Option (Option String) :=
  match pairs.filter (·.1 == key) with
  | [] => some none
  | [p] => some (some p.2)
  | _ => none

/-- The value of a key, read as a number. -/
def number? {α : Type} (read : String → Option α) (pairs : Pairs) (key : String) :
    Option (Option α) :=
  match text? pairs key with
  | none => none
  | some none => some none
  | some (some value) => (read value).map some

end Query

structure PageQuery where
  page : Option Nat := none
deriving DecidableEq, Repr

structure DirectoryQuery where
  page : Option Nat := none
  q : Option String := none
deriving DecidableEq, Repr

structure EventsQuery where
  anchor : Option String := none
  offset : Option Int := none
  highlight : Option String := none
deriving DecidableEq, Repr

def PageQuery.parse? (query : String) : Option PageQuery := do
  return { page := ← Query.number? Integer.count? (Query.pairs query) "page" }

def DirectoryQuery.parse? (query : String) : Option DirectoryQuery := do
  let pairs := Query.pairs query
  return { page := ← Query.number? Integer.count? pairs "page", q := ← Query.text? pairs "q" }

def EventsQuery.parse? (query : String) : Option EventsQuery := do
  let pairs := Query.pairs query
  return { anchor := ← Query.text? pairs "anchor"
           offset := ← Query.number? Integer.int64? pairs "offset"
           highlight := ← Query.text? pairs "highlight" }

end RoomReader
