import RoomReader.Event.Codec

namespace RoomReader

/-!
# Homeserver responses
-/

/-- A part of a room's history. Without an end token nothing further lies in the direction asked
for. -/
structure Messages where
  chunk : List Event := []
  startToken : Option String := none
  endToken : Option String := none
deriving Inhabited

/-- The current state of a room and its latest messages, oldest first. -/
structure InitialSync where
  messages : Messages := {}
  state : List Event := []
deriving Inhabited

structure PublicRoom where
  roomId : String
  name : Option String := none
  topic : Option String := none
  canonicalAlias : Option String := none
  aliases : List String := []
  avatarUrl : Option String := none
  numJoinedMembers : Int64 := 0
  worldReadable : Bool := false
  guestCanJoin : Bool := false
deriving DecidableEq, Repr

structure PublicRooms where
  chunk : List PublicRoom := []
  nextBatch : Option String := none
  totalEstimate : Option Int64 := none
deriving DecidableEq, Repr

structure RoomAlias where
  roomId : String
  servers : List String := []
deriving DecidableEq, Repr

/-- The body of an error that a homeserver states. -/
structure ErrorBody where
  errcode : String
  error : String := ""
deriving DecidableEq, Repr

namespace Messages

def shape : Shape :=
  .record [Shape.field "chunk" (.list Event.shape), Shape.field "start", Shape.field "end"]

def ofJson? (v : Json) : Option Messages := do
  let f ← v.record? shape.names
  return { chunk := ← Json.withDefault [] (Json.list? Event.ofJson?) (f "chunk")
           startToken := ← Json.optional Json.text? (f "start")
           endToken := ← Json.optional Json.text? (f "end") }

end Messages

namespace InitialSync

def shape : Shape :=
  .record [Shape.field "messages" Messages.shape, Shape.field "state" (.list Event.shape)]

def ofJson? (v : Json) : Option InitialSync := do
  let f ← v.record? shape.names
  return { messages := ← Json.withDefault {} Messages.ofJson? (f "messages")
           state := ← Json.withDefault [] (Json.list? Event.ofJson?) (f "state") }

end InitialSync

namespace PublicRoom

def shape : Shape :=
  .record [Shape.field "room_id", Shape.field "name", Shape.field "topic",
    Shape.field "canonical_alias", Shape.field "aliases", Shape.field "avatar_url",
    Shape.field "num_joined_members", Shape.field "world_readable", Shape.field "guest_can_join"]

def ofJson? (v : Json) : Option PublicRoom := do
  let f ← v.record? shape.names
  return { roomId := ← Json.required Json.text? (f "room_id")
           name := ← Json.optional Json.text? (f "name")
           topic := ← Json.optional Json.text? (f "topic")
           canonicalAlias := ← Json.optional Json.text? (f "canonical_alias")
           aliases := ← Json.withDefault [] (Json.list? Json.text?) (f "aliases")
           avatarUrl := ← Json.optional Json.text? (f "avatar_url")
           numJoinedMembers := ← Json.withDefault 0 Json.int64? (f "num_joined_members")
           worldReadable := ← Json.withDefault false Json.bool? (f "world_readable")
           guestCanJoin := ← Json.withDefault false Json.bool? (f "guest_can_join") }

def toJson (r : PublicRoom) : Json :=
  .obj [("room_id", .str r.roomId), ("name", .ofOption .str r.name),
    ("topic", .ofOption .str r.topic), ("canonical_alias", .ofOption .str r.canonicalAlias),
    ("aliases", .ofList .str r.aliases), ("avatar_url", .ofOption .str r.avatarUrl),
    ("num_joined_members", .ofInt64 r.numJoinedMembers),
    ("world_readable", .bool r.worldReadable), ("guest_can_join", .bool r.guestCanJoin)]

end PublicRoom

namespace PublicRooms

def shape : Shape :=
  .record [Shape.field "chunk" (.list PublicRoom.shape), Shape.field "next_batch",
    Shape.field "total_room_count_estimate"]

def ofJson? (v : Json) : Option PublicRooms := do
  let f ← v.record? shape.names
  return { chunk := ← Json.withDefault [] (Json.list? PublicRoom.ofJson?) (f "chunk")
           nextBatch := ← Json.optional Json.text? (f "next_batch")
           totalEstimate := ← Json.optional Json.int64? (f "total_room_count_estimate") }

end PublicRooms

namespace RoomAlias

def shape : Shape := .record [Shape.field "room_id", Shape.field "servers"]

def ofJson? (v : Json) : Option RoomAlias := do
  let f ← v.record? shape.names
  return { roomId := ← Json.required Json.text? (f "room_id")
           servers := ← Json.withDefault [] (Json.list? Json.text?) (f "servers") }

end RoomAlias

namespace ErrorBody

def shape : Shape := .record [Shape.field "errcode", Shape.field "error"]

def ofJson? (v : Json) : Option ErrorBody := do
  let f ← v.record? shape.names
  return { errcode := ← Json.required Json.text? (f "errcode")
           error := ← Json.withDefault "" Json.text? (f "error") }

end ErrorBody

/-- Reads a whole text for a shape and then as a value of a type. -/
def Json.decode? {α : Type} (shape : Shape) (ofJson? : Json → Option α) (s : Bytes) : Option α := do
  ofJson? (← shape.ofBytes? s)

end RoomReader
