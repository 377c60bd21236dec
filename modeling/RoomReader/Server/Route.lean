import RoomReader.Server.Place
import RoomReader.Text.Percent

namespace RoomReader

/-!
# Routes

What a path asks for. The segments of a path are told apart before they are decoded, so a coded
slash is part of a text. The last text of a path may not be empty.
-/

inductive Route where
  | directory
  | resolve (roomAlias : String)
  | room (room : String)
  | permalink (room event : String)
  | members (room : String)
  | member (room user : String)
  | servers (room : String)
  | aliases (room : String)
  | powerLevels (room : String)
deriving DecidableEq, Repr

namespace Route

/-- The same route with each text read by `f`. -/
def mapM? (f : String → Option String) : Route → Option Route
  | directory => some directory
  | resolve a => (f a).map resolve
  | room r => (f r).map room
  | permalink r e => do return permalink (← f r) (← f e)
  | members r => (f r).map members
  | member r u => do return member (← f r) (← f u)
  | servers r => (f r).map servers
  | aliases r => (f r).map aliases
  | powerLevels r => (f r).map powerLevels

/-- The route of the segments below the place that is served. -/
def ofSegments? : List String → Option Route
  | ["alias", a] => if a.isEmpty then none else some (resolve a)
  | ["room", r] => if r.isEmpty then none else some (room r)
  | ["room", r, "event", e] => if e.isEmpty then none else some (permalink r e)
  | ["room", r, "members"] => some (members r)
  | ["room", r, "members", u] => if u.isEmpty then none else some (member r u)
  | ["room", r, "servers"] => some (servers r)
  | ["room", r, "aliases"] => some (aliases r)
  | ["room", r, "power_levels"] => some (powerLevels r)
  | _ => none

/-- Whether a route holds a text. -/
def hasText : Route → Bool
  | directory => false
  | _ => true

/-- The route with its texts decoded; not every written text stands for one. -/
def decode? : Route → Option Route := mapM? Percent.decodeText?

end Route

/-- Where a path leads: the texts at the open parts of the place, and the route below it. -/
structure Destination where
  placeTexts : List String := []
  route : Route
deriving DecidableEq, Repr

namespace Destination

/-- The destination of the segments below a place. The directory is the place itself; the root is
written with a slash. -/
def ofSegments? (atRoot : Bool) (placeTexts : List String) (segments : List String) :
    Option Destination :=
  if segments = (if atRoot then [""] else []) then
    some { placeTexts, route := .directory }
  else (Route.ofSegments? segments).map fun route => { placeTexts, route }

/-- The destination of a written path, its texts not yet decoded. -/
def ofPath? (place : Place) (path : String) : Option Destination :=
  match splitAtEach '/' path.toList with
  | [] :: segments => do
    let (texts, rest) ← place.below? segments
    ofSegments? place.isEmpty (texts.map String.ofList) (rest.map String.ofList)
  | _ => none

/-- The destination with its texts decoded; not every written text stands for one. The directory
does not look at the place. -/
def decode? (d : Destination) : Option Destination :=
  if d.route.hasText then do
    return { placeTexts := ← d.placeTexts.mapM Percent.decodeText?, route := ← d.route.decode? }
  else some d

/-- Whether the page of the route is given the texts that it expects, which are its own. -/
def isServed (d : Destination) : Bool := d.placeTexts.isEmpty || !d.route.hasText

end Destination

end RoomReader
