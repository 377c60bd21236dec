import RoomReader.Http.Status
import RoomReader.Url.Error

namespace RoomReader

/-!
# Failures of homeserver calls

A homeserver refuses a room when it answers with an error of its own and a status that blames the
request; a request that only came too often is not refused.
-/

inductive ApiError where
  /-- An error that the homeserver states. -/
  | matrix (status : Nat) (errcode message : String)
  /-- A status that is no success, with a body that states no error. -/
  | http (status : Nat)
  | transport (reason : String)
  | decode (reason : String)
  | invalidUrl (reason : Url.ParseError)
deriving DecidableEq, Repr

namespace ApiError

def text : ApiError → String
  | matrix status errcode message =>
    "Homeserver returned " ++ Status.text status ++ ": " ++ errcode ++ " (" ++ message ++ ")"
  | http status => "Homeserver returned an unexpected status: " ++ Status.text status
  | transport reason => "Request failed: " ++ reason
  | decode reason => "Failed to decode homeserver response: " ++ reason
  | invalidUrl reason => "Invalid homeserver URL: " ++ reason.message

/-- Whether the homeserver answered and refused. -/
def isRefusal : ApiError → Bool
  | matrix status _ _ => Status.isClientError status && status != Status.tooManyRequests
  | _ => false

/-- What a visitor is told. -/
def describe (e : ApiError) : String :=
  match e with
  | matrix _ errcode message =>
    if errcode = "M_FORBIDDEN" then
      "This room is not world readable and requires membership to view."
    else if errcode = "M_GUEST_ACCESS_FORBIDDEN" then "This room does not allow guest access."
    else if errcode = "M_NOT_FOUND" then "This room could not be found."
    else if message.isEmpty then errcode
    else message
  | e => e.text

end ApiError

end RoomReader
