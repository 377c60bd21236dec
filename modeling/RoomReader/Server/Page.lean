import RoomReader.Pool.Worker
import RoomReader.Room.Codec
import RoomReader.Server.Query

namespace RoomReader

/-!
# Pages

What the pages of the server say, and how many entries they have.
-/

namespace PageSize

def directory : Nat := 20
def timeline : Nat := 30
def members : Nat := 20
def servers : Nat := 30
def aliases : Nat := 10

end PageSize

/-- Without a number a page is the first one. -/
def pageNumber (page : Option Nat) : Nat := page.getD 1

structure DirectoryPage where
  rooms : List PublicRoom
  page : Nat
  pageSize : Nat
  query : Option String

def DirectoryPage.toJson (p : DirectoryPage) : Json :=
  .obj [("rooms", .ofList PublicRoom.toJson p.rooms), ("page", .ofNat p.page),
    ("page_size", .ofNat p.pageSize), ("query", .ofOption .str p.query)]

/-- A part of a room's timeline, oldest first, and where it was looked for. -/
structure TimelinePage where
  info : RoomInfo
  memberMap : StringMap Member
  events : List Event
  pageSize : Nat
  offset : Int
  anchor : String
  highlight : Option String
  atTopEnd : Bool
  atBottomEnd : Bool

namespace TimelinePage

/-- The anchor that was asked for, or the newest event where none was. -/
def shownAnchor (anchor : String) (newestFirst : List Event) : String :=
  if anchor.isEmpty then (newestFirst.head?.map (·.id)).getD "" else anchor

def ofReply (anchor : String) (offset : Int) (highlight : Option String) (reply : EventsReply) :
    TimelinePage :=
  { info := reply.info
    memberMap := reply.memberMap
    events := reply.events.reverse
    pageSize := PageSize.timeline
    offset
    anchor := shownAnchor anchor reply.events
    highlight
    atTopEnd := reply.atTopEnd
    atBottomEnd := reply.atBottomEnd }

def toJson (p : TimelinePage) : Json :=
  .obj [("room_info", p.info.toJson), ("member_map", .ofMap Member.toJson p.memberMap),
    ("events", .ofList Event.toJson p.events), ("page_size", .ofNat p.pageSize),
    ("current_offset", .int p.offset), ("anchor", .str p.anchor),
    ("highlight", .ofOption .str p.highlight), ("at_top_end", .bool p.atTopEnd),
    ("at_bottom_end", .bool p.atBottomEnd)]

end TimelinePage

/-- A list page, its entries under a name of their own. -/
def ListReply.toJson {α : Type} (name : String) (entry : α → Json) (r : ListReply α) : Json :=
  .obj [("room_info", r.info.toJson), (name, .ofList entry r.entries), ("page", .ofNat r.page),
    ("page_size", .ofNat r.pageSize)]

def MemberReply.toJson (r : MemberReply) : Json :=
  .obj [("room_info", r.info.toJson), ("member", r.member.toJson), ("role", .str r.role)]

def LevelsReply.toJson (r : LevelsReply) : Json :=
  .obj [("room_info", r.info.toJson), ("power_levels", r.levels.toJson)]

end RoomReader
