import RoomReader.Json.Record
import RoomReader.Text.Blank

namespace RoomReader

/-!
# The homeserver that is read from

A file in JSON names the homeserver and how to sign in there. Media come from the homeserver too
unless another host is named.
-/

structure HomeserverSettings where
  homeServer : String
  userId : String := ""
  accessToken : String := ""
  mediaBaseUrl : String := ""
deriving DecidableEq, Repr

namespace HomeserverSettings

inductive Error where
  /-- The text is no JSON, or not of the right shape. -/
  | malformed
  | blankHomeServer
deriving DecidableEq, Repr

def Error.message? : Error → Option String
  | malformed => none
  | blankHomeServer => some "home_server must not be empty"

/-- Every field has two names. -/
def shape : Shape :=
  .record [("HomeServer", ["home_server"], .any), ("UserID", ["user_id"], .any),
    ("AccessToken", ["access_token"], .any), ("MediaBaseURL", ["media_base_url"], .any)]

def ofJson? (v : Json) : Option HomeserverSettings := do
  let f ← v.record? shape.names
  return { homeServer := ← Json.required Json.text? (f "HomeServer")
           userId := ← Json.withDefault "" Json.text? (f "UserID")
           accessToken := ← Json.withDefault "" Json.text? (f "AccessToken")
           mediaBaseUrl := ← Json.withDefault "" Json.text? (f "MediaBaseURL") }

/-- Refuses a blank homeserver and fills in a blank media host. -/
def check (s : HomeserverSettings) : Except Error HomeserverSettings :=
  if Blank.isEmpty s.homeServer then .error .blankHomeServer
  else if Blank.isEmpty s.mediaBaseUrl then .ok { s with mediaBaseUrl := s.homeServer }
  else .ok s

def parse (s : String) : Except Error HomeserverSettings :=
  match shape.ofBytes? (Utf8.encode s) >>= ofJson? with
  | none => .error .malformed
  | some settings => settings.check

end HomeserverSettings

end RoomReader
