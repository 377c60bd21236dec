import RoomReader.StringMap
import RoomReader.Json.Basic

namespace RoomReader

/-!
# Room events

The content of an event of one of eight state types is typed. A redaction keeps its content as it
is, and so does every other event, including one of the eight types whose content has another
shape than its type asks for.
-/

namespace EventType

def create : String := "m.room.create"
def name : String := "m.room.name"
def topic : String := "m.room.topic"
def avatar : String := "m.room.avatar"
def canonicalAlias : String := "m.room.canonical_alias"
def aliases : String := "m.room.aliases"
def member : String := "m.room.member"
def powerLevels : String := "m.room.power_levels"
def redaction : String := "m.room.redaction"

end EventType

structure CreateContent where
  creator : Option String := none
  roomVersion : Option String := none
deriving DecidableEq, Repr, Inhabited

structure NameContent where
  name : Option String := none
deriving DecidableEq, Repr, Inhabited

structure TopicContent where
  topic : Option String := none
deriving DecidableEq, Repr, Inhabited

structure AvatarContent where
  url : Option String := none
deriving DecidableEq, Repr, Inhabited

structure CanonicalAliasContent where
  roomAlias : Option String := none
deriving DecidableEq, Repr, Inhabited

structure AliasesContent where
  aliases : List String := []
deriving DecidableEq, Repr, Inhabited

structure MemberContent where
  membership : Option String := none
  displayName : Option String := none
  avatarUrl : Option String := none
deriving DecidableEq, Repr, Inhabited

/-- The levels that actions need, and the levels that users have. -/
structure PowerLevels where
  ban : Int64 := 0
  kick : Int64 := 0
  redact : Int64 := 0
  invite : Int64 := 0
  eventsDefault : Int64 := 0
  stateDefault : Int64 := 0
  usersDefault : Int64 := 0
  events : StringMap Int64 := ∅
  users : StringMap Int64 := ∅

/-- A user without an entry has the default level. -/
def PowerLevels.userLevel (levels : PowerLevels) (userId : String) : Int64 :=
  levels.users[userId]?.getD levels.usersDefault

/-- The role shown beside a member's name. -/
def roleOfLevel (level : Int64) : String :=
  if level = 100 then "Admin"
  else if level = 50 then "Moderator"
  else if level = 0 then "User"
  else if level = -1 then "Muted"
  else "Custom"

inductive EventContent where
  | create (c : CreateContent)
  | name (c : NameContent)
  | topic (c : TopicContent)
  | avatar (c : AvatarContent)
  | canonicalAlias (c : CanonicalAliasContent)
  | aliases (c : AliasesContent)
  | member (c : MemberContent)
  | powerLevels (levels : PowerLevels)
  | redaction (content : Json)
  | other (eventType : String) (content : Json)

/-- The type that an event with this content has. -/
def EventContent.eventType : EventContent → String
  | create _ => EventType.create
  | name _ => EventType.name
  | topic _ => EventType.topic
  | avatar _ => EventType.avatar
  | canonicalAlias _ => EventType.canonicalAlias
  | aliases _ => EventType.aliases
  | member _ => EventType.member
  | powerLevels _ => EventType.powerLevels
  | redaction _ => EventType.redaction
  | other eventType _ => eventType

structure Event where
  id : String
  sender : String
  stateKey : Option String
  content : EventContent
  prevContent : Option Json
  originServerTs : Int64

namespace Event

def eventType (e : Event) : String := e.content.eventType

/-- Redactions have been carried out by the homeserver already; a timeline leaves them out. -/
def isRedaction (e : Event) : Bool :=
  match e.content with
  | .redaction _ => true
  | _ => false

end Event

end RoomReader
