import RoomReader.Homeserver.Error

namespace RoomReader

/-!
# Why a room job gives no reply
-/

inductive RoomError where
  /-- The homeserver refuses the room. -/
  | unavailable (room reason : String)
  /-- The homeserver could not be asked. -/
  | transport (room : String) (cause : ApiError)
  | memberNotFound (room user : String)
  | anchorNotFound (room anchor : String)
  | notLoaded (room : String)
  | workerUnavailable
deriving DecidableEq, Repr

namespace RoomError

def text : RoomError → String
  | unavailable room reason => "Room " ++ room ++ " is unavailable: " ++ reason
  | transport room cause => "Failed to reach the homeserver for " ++ room ++ ": " ++ cause.text
  | memberNotFound room user => "Member " ++ user ++ " not found in " ++ room
  | anchorNotFound room anchor => "Event " ++ anchor ++ " not found in " ++ room
  | notLoaded room => "Room " ++ room ++ " is not loaded"
  | workerUnavailable => "Worker is not accepting jobs"

/-- What a failed homeserver call for a room means. -/
def ofApi (room : String) (e : ApiError) : RoomError :=
  if e.isRefusal then unavailable room e.describe else transport room e

end RoomError

end RoomReader
