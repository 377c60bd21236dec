import RoomReader.Event.Basic
import RoomReader.Json.Record

namespace RoomReader

/-!
# Events as JSON

Each content type is read from a record of its known fields and written back from its typed fields.
An event is written without `unsigned`: previous content that stood there moves to the top level.
-/

namespace CreateContent

def ofJson? (v : Json) : Option CreateContent := do
  let f ← v.record? ["creator", "room_version"]
  return { creator := ← Json.optional Json.text? (f "creator")
           roomVersion := ← Json.optional Json.text? (f "room_version") }

def toJson (c : CreateContent) : Json :=
  .obj (Json.field? "creator" .str c.creator ++ Json.field? "room_version" .str c.roomVersion)

end CreateContent

namespace NameContent

def ofJson? (v : Json) : Option NameContent := do
  let f ← v.record? ["name"]
  return { name := ← Json.optional Json.text? (f "name") }

def toJson (c : NameContent) : Json := .obj (Json.field? "name" .str c.name)

end NameContent

namespace TopicContent

def ofJson? (v : Json) : Option TopicContent := do
  let f ← v.record? ["topic"]
  return { topic := ← Json.optional Json.text? (f "topic") }

def toJson (c : TopicContent) : Json := .obj (Json.field? "topic" .str c.topic)

end TopicContent

namespace AvatarContent

def ofJson? (v : Json) : Option AvatarContent := do
  let f ← v.record? ["url"]
  return { url := ← Json.optional Json.text? (f "url") }

def toJson (c : AvatarContent) : Json := .obj (Json.field? "url" .str c.url)

end AvatarContent

namespace CanonicalAliasContent

def ofJson? (v : Json) : Option CanonicalAliasContent := do
  let f ← v.record? ["alias"]
  return { roomAlias := ← Json.optional Json.text? (f "alias") }

def toJson (c : CanonicalAliasContent) : Json := .obj (Json.field? "alias" .str c.roomAlias)

end CanonicalAliasContent

namespace AliasesContent

def ofJson? (v : Json) : Option AliasesContent := do
  let f ← v.record? ["aliases"]
  return { aliases := ← Json.withDefault [] (Json.list? Json.text?) (f "aliases") }

def toJson (c : AliasesContent) : Json := .obj [("aliases", Json.ofList .str c.aliases)]

end AliasesContent

namespace MemberContent

def ofJson? (v : Json) : Option MemberContent := do
  let f ← v.record? ["membership", "displayname", "avatar_url"]
  return { membership := ← Json.optional Json.text? (f "membership")
           displayName := ← Json.optional Json.text? (f "displayname")
           avatarUrl := ← Json.optional Json.text? (f "avatar_url") }

def toJson (c : MemberContent) : Json :=
  .obj (Json.field? "membership" .str c.membership ++ Json.field? "displayname" .str c.displayName
    ++ Json.field? "avatar_url" .str c.avatarUrl)

end MemberContent

namespace PowerLevels

def ofJson? (v : Json) : Option PowerLevels := do
  let f ← v.record? ["ban", "kick", "redact", "invite", "events_default", "state_default",
    "users_default", "events", "users"]
  let level (name : String) : Option Int64 := Json.withDefault 0 Json.int64? (f name)
  let table (name : String) : Option (StringMap Int64) :=
    Json.withDefault ∅ (Json.map? Json.int64?) (f name)
  return { ban := ← level "ban"
           kick := ← level "kick"
           redact := ← level "redact"
           invite := ← level "invite"
           eventsDefault := ← level "events_default"
           stateDefault := ← level "state_default"
           usersDefault := ← level "users_default"
           events := ← table "events"
           users := ← table "users" }

def tableToJson (t : StringMap Int64) : Json :=
  .obj (t.toList.map fun e => (e.1, Json.ofInt64 e.2))

def toJson (levels : PowerLevels) : Json :=
  .obj [("ban", .ofInt64 levels.ban), ("kick", .ofInt64 levels.kick),
    ("redact", .ofInt64 levels.redact), ("invite", .ofInt64 levels.invite),
    ("events_default", .ofInt64 levels.eventsDefault),
    ("state_default", .ofInt64 levels.stateDefault),
    ("users_default", .ofInt64 levels.usersDefault), ("events", tableToJson levels.events),
    ("users", tableToJson levels.users)]

end PowerLevels

namespace EventContent

/-- The typed content of an event type, where the value fits it. -/
def typed? (eventType : String) (v : Json) : Option EventContent :=
  if eventType = EventType.create then (CreateContent.ofJson? v).map create
  else if eventType = EventType.name then (NameContent.ofJson? v).map name
  else if eventType = EventType.topic then (TopicContent.ofJson? v).map topic
  else if eventType = EventType.avatar then (AvatarContent.ofJson? v).map avatar
  else if eventType = EventType.canonicalAlias then
    (CanonicalAliasContent.ofJson? v).map canonicalAlias
  else if eventType = EventType.aliases then (AliasesContent.ofJson? v).map aliases
  else if eventType = EventType.member then (MemberContent.ofJson? v).map member
  else if eventType = EventType.powerLevels then (PowerLevels.ofJson? v).map powerLevels
  else none

/-- The content of an event of a given type; a misfit is kept as it is. -/
def ofJson (eventType : String) (v : Json) : EventContent :=
  if eventType = EventType.redaction then redaction v
  else (typed? eventType v).getD (other eventType v)

def toJson : EventContent → Json
  | create c => c.toJson
  | name c => c.toJson
  | topic c => c.toJson
  | avatar c => c.toJson
  | canonicalAlias c => c.toJson
  | aliases c => c.toJson
  | member c => c.toJson
  | powerLevels levels => levels.toJson
  | redaction content => content
  | other _ content => content

end EventContent

namespace Event

/-- How the text of an event is read: its payloads are free values. -/
def shape : Shape :=
  .record [Shape.field "event_id", Shape.field "type", Shape.field "sender",
    Shape.field "state_key", Shape.field "content", Shape.field "prev_content",
    Shape.field "unsigned" (.record [Shape.field "prev_content"]), Shape.field "origin_server_ts"]

/-- The previous content in an event's `unsigned` part. -/
def unsignedPrev? (v : Json) : Option (Option Json) := do
  let f ← v.record? ["prev_content"]
  Json.optional some (f "prev_content")

def ofJson? (v : Json) : Option Event := do
  let f ← v.record? shape.names
  let id ← Json.required Json.text? (f "event_id")
  let eventType ← Json.required Json.text? (f "type")
  let sender ← Json.withDefault "" Json.text? (f "sender")
  let stateKey ← Json.optional Json.text? (f "state_key")
  let content ← Json.withDefault .null some (f "content")
  let prevContent ← Json.optional some (f "prev_content")
  let unsignedPrev ← Json.optional unsignedPrev? (f "unsigned")
  let originServerTs ← Json.withDefault 0 Json.int64? (f "origin_server_ts")
  return { id, sender, stateKey
           content := .ofJson eventType content
           prevContent := prevContent <|> unsignedPrev.join
           originServerTs }

def toJson (e : Event) : Json :=
  .obj ([("event_id", .str e.id), ("type", .str e.eventType), ("sender", .str e.sender)]
    ++ Json.field? "state_key" .str e.stateKey ++ [("content", e.content.toJson)]
    ++ Json.field? "prev_content" (fun v => v) e.prevContent
    ++ [("origin_server_ts", .ofInt64 e.originServerTs)])

/-- The previous membership in a member event. -/
def prevMember? (e : Event) : Option MemberContent :=
  match e.content with
  | .member _ => e.prevContent.bind MemberContent.ofJson?
  | _ => none

end Event

end RoomReader
