import RoomReader.Homeserver.Client
import RoomReader.Server.Basic
import RoomReader.Settings.Homeserver

namespace RoomReader

/-!
# Starting up

The homeserver's file is read, the homeserver's URL is tried, and the directory is loaded once.
-/

inductive StartError where
  | unreadableFile
  | invalidFile (reason : HomeserverSettings.Error)
  | unusableUrl (url : String) (reason : Url.ParseError)
deriving DecidableEq, Repr

namespace StartError

/-- What went wrong with the homeserver's file or what stands in it. -/
def message (file : String) : StartError → String
  | unreadableFile => "Failed to read config file " ++ file
  | invalidFile _ => "Invalid config file " ++ file
  | unusableUrl url _ => "Unusable homeserver URL " ++ url

/-- Why, where that has a text of its own. -/
def cause? : StartError → Option String
  | unreadableFile => none
  | invalidFile reason => reason.message?
  | unusableUrl _ reason => some reason.message

end StartError

/-- How to reach the homeserver, and a server that has not asked it yet. -/
structure Startup where
  client : HomeserverClient
  server : Server

namespace Startup

/-- Prepares a server from its settings and the text of the homeserver's file, if that could be
read. -/
def prepare (settings : Settings) (text : Option String) : Except StartError Startup :=
  match text with
  | none => .error .unreadableFile
  | some text =>
    match HomeserverSettings.parse text with
    | .error e => .error (.invalidFile e)
    | .ok hs =>
      match HomeserverClient.ofText hs.homeServer (some hs.accessToken) with
      | .error e => .error (.unusableUrl hs.homeServer e)
      | .ok client => .ok { client, server := .ofSettings settings hs.mediaBaseUrl }

end Startup

end RoomReader
