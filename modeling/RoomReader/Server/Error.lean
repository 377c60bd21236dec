import RoomReader.Json.Basic
import RoomReader.Room.Error

namespace RoomReader

/-!
# Requests that fail

Who is to blame shows in the status: the visitor, the homeserver that refuses, the homeserver that
cannot be reached, or the cache.
-/

inductive RequestError where
  | room (e : RoomError)
  | invalidRoomId (id : String)
  | aliasNotFound (roomAlias reason : String)
deriving DecidableEq, Repr

namespace RequestError

def text : RequestError → String
  | room e => e.text
  | invalidRoomId id => "Invalid room id: " ++ id
  | aliasNotFound roomAlias reason => "Unable to resolve room alias " ++ roomAlias ++ ": " ++ reason

/-- What a visitor gets: a status, a title, and details. -/
structure Notice where
  status : Nat
  title : String
  details : String
deriving DecidableEq, Repr

def notice : RequestError → Notice
  | invalidRoomId _ => ⟨400, "Unable to Load Room.", "Room ID must start with a '!'"⟩
  | aliasNotFound _ reason => ⟨404, "Unable to resolve Room Alias.", reason⟩
  | room (.unavailable _ reason) => ⟨403, "Unable to Join Room.", reason⟩
  | room (.memberNotFound r user) =>
    ⟨404, "Member not found.", (RoomError.memberNotFound r user).text⟩
  | room (.anchorNotFound r anchor) =>
    ⟨404, "Event not found.", (RoomError.anchorNotFound r anchor).text⟩
  | room (.transport _ cause) => ⟨502, "Cannot Load Room.", cause.describe⟩
  | room (.notLoaded _) | room .workerUnavailable =>
    ⟨503, "Cannot Load Room. Internal Server Error.", "The room cache is temporarily unavailable"⟩

def Notice.toJson (n : Notice) : Json :=
  .obj [("error", .str n.title), ("details", .str n.details)]

end RequestError

end RoomReader
