import RoomReader.Json.Reader
import RoomReader.StringMap

namespace RoomReader.Json

/-!
# Records in JSON values

A record is an object, whose fields are found by name, or an array, whose items are the fields in
order; an array may stop early and may not go on after the last field. Each reader returns `none`
where a value does not fit.
-/

/-- The value of a field in a list of fields. -/
def lookup? (fields : List (String × Json)) (name : String) : Option Json :=
  fields.lookup name

/-- Where the fields with these names are found. -/
def record? (names : List String) : Json → Option (String → Option Json)
  | obj fields => some (lookup? fields)
  | arr items =>
    if items.length ≤ names.length then some (lookup? (names.zip items)) else none
  | _ => none

def text? : Json → Option String
  | str s => some s
  | _ => none

def bool? : Json → Option Bool
  | bool b => some b
  | _ => none

/-- An integer that fits 64 bits with a sign. -/
def int64? : Json → Option Int64
  | int n =>
    if Int64.minValue.toInt ≤ n ∧ n ≤ Int64.maxValue.toInt then some (Int64.ofInt n) else none
  | _ => none

def list? {α : Type} (item : Json → Option α) : Json → Option (List α)
  | arr items => items.mapM item
  | _ => none

def entries? {α : Type} (value : Json → Option α) :
    List (String × Json) → Option (List (String × α))
  | [] => some []
  | (name, v) :: rest => do
    let v ← value v
    let rest ← entries? value rest
    return (name, v) :: rest

/-- An object as a map from its field names. -/
def map? {α : Type} (value : Json → Option α) : Json → Option (StringMap α)
  | obj fields => (entries? value fields).map StringMap.ofEntries
  | _ => none

/-- A field that has to be there. -/
def required {α : Type} (read : Json → Option α) : Option Json → Option α
  | none => none
  | some v => read v

/-- A field with a value to take when it is absent. -/
def withDefault {α : Type} (value : α) (read : Json → Option α) : Option Json → Option α
  | none => some value
  | some v => read v

/-- A field that may be absent or `null`. -/
def optional {α : Type} (read : Json → Option α) : Option Json → Option (Option α)
  | none => some none
  | some null => some none
  | some v => (read v).map some

end RoomReader.Json
