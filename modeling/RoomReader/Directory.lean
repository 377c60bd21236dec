import RoomReader.Homeserver.Exchange
import RoomReader.Media
import RoomReader.Pagination
import RoomReader.Text.Blank
import RoomReader.Text.Lowercase

namespace RoomReader

/-!
# The public directory

A snapshot of the world readable rooms in the homeserver's directory, in its order. It is replaced
as a whole, and stays when the homeserver fails. Searching ignores case.
-/

structure Directory where
  rooms : List PublicRoom := []
deriving DecidableEq, Repr

namespace Directory

/-- Width and height of an avatar in the list. -/
def avatarSize : Nat := 60

/-- How often the first load is tried. -/
def loadAttempts : Nat := 3

/-- The canonical alias, or the first alias where there is none. -/
def primaryAlias (r : PublicRoom) : Option String :=
  match r.canonicalAlias with
  | some roomAlias => if roomAlias.isEmpty then r.aliases.head? else some roomAlias
  | none => r.aliases.head?

/-- A room as it is listed: with a primary alias, and with a link in place of its avatar's content
URI. -/
def listed (mediaBase : String) (r : PublicRoom) : PublicRoom :=
  { r with
    canonicalAlias := primaryAlias r
    avatarUrl := r.avatarUrl.bind (Media.thumbnail? · mediaBase avatarSize avatarSize "crop") }

def ofChunk (mediaBase : String) (chunk : List PublicRoom) : Directory :=
  ⟨(chunk.filter (·.worldReadable)).map (listed mediaBase)⟩

def size (d : Directory) : Nat := d.rooms.length

/-- Takes a new snapshot and gives its size. -/
def update (mediaBase : String) (d : Directory) : Exchange (Except ApiError Nat × Directory) := do
  match ← .call .publicRooms with
  | .error e => return (.error e, d)
  | .ok answer =>
    let d := ofChunk mediaBase answer.chunk
    return (.ok d.size, d)

/-- Tries a number of times to take a new snapshot. Without success the size given is zero. -/
def tryUpdate (mediaBase : String) (d : Directory) : Nat → Exchange (Nat × Directory)
  | 0 => return (0, d)
  | attempts + 1 => do
    match ← d.update mediaBase with
    | (.ok count, d) => return (count, d)
    | (.error _, d) => d.tryUpdate mediaBase attempts

def load (mediaBase : String) (d : Directory) : Exchange (Nat × Directory) :=
  d.tryUpdate mediaBase loadAttempts

def page (d : Directory) (page pageSize : Nat) : List PublicRoom :=
  Pagination.slice page pageSize d.rooms

/-- Whether `part` occurs in a text without gaps. -/
def occursIn (part : List Char) : List Char → Bool
  | [] => part.isEmpty
  | c :: rest => part.isPrefixOf (c :: rest) || occursIn part rest

/-- Whether a text in lower case contains a query. -/
def contains (query : String) (field : Option String) : Bool :=
  field.any fun t => occursIn query.toList (Lowercase.lower t).toList

/-- Name and topic are searched, and the canonical alias by a query that starts as an alias. -/
def isMatch (query : String) (r : PublicRoom) : Bool :=
  (query.toList.head? == some '#' && contains query r.canonicalAlias)
    || contains query r.name || contains query r.topic

/-- What a query looks for. -/
def needle (query : String) : String := Lowercase.lower (Blank.trim query)

/-- A page of the rooms that match a query; a blank query matches all. -/
def search (d : Directory) (page pageSize : Nat) (query : String) : List PublicRoom :=
  let query := needle query
  if query.isEmpty then d.page page pageSize
  else Pagination.slice page pageSize (d.rooms.filter (isMatch query))

end Directory

end RoomReader
