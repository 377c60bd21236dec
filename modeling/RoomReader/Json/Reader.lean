import RoomReader.Json.Raw
import RoomReader.Text.Utf8

namespace RoomReader

/-!
# Reading JSON texts

A text is read for a `Shape`: which parts of it are records with known fields and which are free
values. Known fields are read strictly, and each of them at most once; unknown fields are passed
over unread. Inside a free value the last of several fields with one name counts. At most 127
containers may be nested around a part that is read.
-/

namespace RawJson

/-- The code unit of four hexadecimal digits. -/
def codeUnit (a b c d : UInt8) : Nat :=
  let v x := (Ascii.hexValue? x).getD 0
  ((v a * 16 + v b) * 16 + v c) * 16 + v d

/-- The byte that a simple escape stands for. -/
def escaped (b : UInt8) : UInt8 :=
  if b == 0x62 then 8
  else if b == 0x66 then 12
  else if b == 0x6E then 10
  else if b == 0x72 then 13
  else if b == 0x74 then 9
  else b

def utf8OfCode (code : Nat) : Bytes := Utf8.encode (String.singleton (Char.ofNat code))

/-- The bytes that a string body stands for. Surrogates have to come in pairs. -/
def unescape : Bytes → Option Bytes
  | 0x5C :: 0x75 :: a :: b :: c :: d :: rest =>
    let unit := codeUnit a b c d
    if 0xDC00 ≤ unit && unit ≤ 0xDFFF then none
    else if 0xD800 ≤ unit && unit ≤ 0xDBFF then
      match rest with
      | 0x5C :: 0x75 :: e :: f :: g :: h :: rest =>
        let low := codeUnit e f g h
        if 0xDC00 ≤ low && low ≤ 0xDFFF then
          let code := 0x10000 + (unit - 0xD800) * 0x400 + (low - 0xDC00)
          (unescape rest).map (utf8OfCode code ++ ·)
        else none
      | _ => none
    else (unescape rest).map (utf8OfCode unit ++ ·)
  | 0x5C :: e :: rest => (unescape rest).map (escaped e :: ·)
  | b :: rest => (unescape rest).map (b :: ·)
  | [] => some []

/-- The text of a string body. -/
def text? (body : Bytes) : Option String := do Utf8.decode? (← unescape body)

/-- Sets a field; one with this name keeps its place. -/
def setField (fields : List (String × Json)) (name : String) (value : Json) :
    List (String × Json) :=
  if fields.any (·.1 == name) then
    fields.map fun f => if f.1 == name then (name, value) else f
  else fields ++ [(name, value)]

mutual

/-- A free value, with at most `depth` containers nested in one another. -/
def toJson? (depth : Nat) : RawJson → Option Json
  | .null => some .null
  | .bool b => some (.bool b)
  | .number n => n.toJson?
  | .str body => (text? body).map .str
  | .arr items =>
    if depth = 0 then none else (itemsToJson? (depth - 1) items).map .arr
  | .obj fields =>
    if depth = 0 then none else (fieldsToJson? (depth - 1) [] fields).map .obj

def itemsToJson? (depth : Nat) : List RawJson → Option (List Json)
  | [] => some []
  | v :: rest => do
    let v ← toJson? depth v
    let rest ← itemsToJson? depth rest
    return v :: rest

def fieldsToJson? (depth : Nat) (found : List (String × Json)) :
    List (Bytes × RawJson) → Option (List (String × Json))
  | [] => some found
  | (name, v) :: rest => do
    let name ← text? name
    let v ← toJson? depth v
    fieldsToJson? depth (setField found name v) rest

end

end RawJson

/-- How a text is to be read. A field of a record has a name, other names that it goes by, and a
shape. -/
inductive Shape where
  | any
  | list (item : Shape)
  | record (fields : List (String × List String × Shape))

namespace Shape

abbrev Field := String × List String × Shape

/-- A field with one name. -/
def field (name : String) (shape : Shape := any) : Field := (name, [], shape)

def names : Shape → List String
  | record fields => fields.map (·.1)
  | _ => []

/-- The field that a name denotes. -/
def fieldNamed? (fields : List Field) (name : String) : Option (String × Shape) :=
  (fields.find? fun f => f.1 == name || f.2.1.contains name).map fun f => (f.1, f.2.2)

mutual

/-- The parts of a text that a shape asks for. A record may be written as an object or as an array
of its fields in order, from the first to any later one. -/
def read? (depth : Nat) : Shape → RawJson → Option Json
  | list item, .arr items =>
    if depth = 0 then none else (readItems? (depth - 1) item items).map .arr
  | record fields, .arr items =>
    if depth = 0 then none else (readPlaces? (depth - 1) fields items).map .arr
  | record fields, .obj members =>
    if depth = 0 then none else (readMembers? (depth - 1) fields [] members).map .obj
  | _, v => v.toJson? depth

def readItems? (depth : Nat) (item : Shape) : List RawJson → Option (List Json)
  | [] => some []
  | v :: rest => do
    let v ← read? depth item v
    let rest ← readItems? depth item rest
    return v :: rest

def readPlaces? (depth : Nat) : List Field → List RawJson → Option (List Json)
  | _, [] => some []
  | [], _ :: _ => none
  | f :: fields, v :: rest => do
    let v ← read? depth f.2.2 v
    let rest ← readPlaces? depth fields rest
    return v :: rest

def readMembers? (depth : Nat) (fields : List Field) (found : List (String × Json)) :
    List (Bytes × RawJson) → Option (List (String × Json))
  | [] => some found
  | (name, v) :: rest => do
    match fieldNamed? fields (← RawJson.text? name) with
    | none => readMembers? depth fields found rest
    | some (name, shape) =>
      if found.any (·.1 == name) then none
      else
        let v ← read? depth shape v
        readMembers? depth fields (found ++ [(name, v)]) rest

end

/-- How many containers may be nested. -/
def maxDepth : Nat := 127

/-- Reads the bytes of a whole text. -/
def ofBytes? (shape : Shape) (s : Bytes) : Option Json := do
  shape.read? maxDepth (← RawJson.ofBytes? s)

end Shape

end RoomReader
