import RoomReader.Homeserver.Exchange
import RoomReader.Url.Parser

namespace RoomReader

/-!
# Homeserver calls over HTTP

Every call is one GET request. Its path lies in the folder of the homeserver's URL and names what
is asked for, one segment for each text. An answer is read by its status: what was asked for, or an
error.
-/

namespace Call

/-- The path of a call below the client interface. -/
def segments : Call → List String
  | sync room _ => ["rooms", room, "initialSync"]
  | messages room _ _ _ => ["rooms", room, "messages"]
  | publicRooms => ["publicRooms"]
  | resolveAlias roomAlias => ["directory", "room", roomAlias]

def query : Call → List (String × String)
  | sync _ limit => [("limit", toString limit)]
  | messages _ fromToken direction limit =>
    [("from", fromToken), ("dir", direction.text), ("limit", toString limit)]
  | publicRooms => []
  | resolveAlias _ => []

/-- Reads the body of a successful answer. -/
def decode? : (c : Call) → Bytes → Option c.Reply
  | sync .. => Json.decode? InitialSync.shape InitialSync.ofJson?
  | messages .. => Json.decode? Messages.shape Messages.ofJson?
  | publicRooms => Json.decode? PublicRooms.shape PublicRooms.ofJson?
  | resolveAlias _ => Json.decode? RoomAlias.shape RoomAlias.ofJson?

end Call

structure HttpAnswer where
  status : Nat
  body : Bytes
deriving DecidableEq, Repr

structure HttpRequest where
  url : Url
  bearer : Option String
deriving DecidableEq, Repr

/-- A homeserver's URL and the token to sign in with. -/
structure HomeserverClient where
  base : Url
  token : Option String := none
deriving DecidableEq, Repr

namespace HomeserverClient

def interface : List String := ["_matrix", "client", "r0"]

/-- An empty token is none. -/
def ofText (base : String) (token : Option String) : Except Url.ParseError HomeserverClient := do
  return { base := ← Url.parseBase base, token := token.filter (! ·.isEmpty) }

def url (c : HomeserverClient) (call : Call) : Url :=
  let endpoint := (c.base.extend? (interface ++ call.segments)).getD c.base
  if call.query.isEmpty then endpoint else endpoint.addPairs call.query

def request (c : HomeserverClient) (call : Call) : HttpRequest :=
  { url := c.url call, bearer := c.token }

/-- What an answer to a call says. -/
def read (call : Call) (answer : HttpAnswer) : Except ApiError call.Reply :=
  if Status.isSuccess answer.status then
    match call.decode? answer.body with
    | some reply => .ok reply
    | none => .error (.decode "")
  else
    match Json.decode? ErrorBody.shape ErrorBody.ofJson? answer.body with
    | some e => .error (.matrix answer.status e.errcode e.error)
    | none => .error (.http answer.status)

/-- The homeserver as it is seen through requests, where `none` is a request without a complete
answer. -/
def homeserver {σ : Type} (c : HomeserverClient)
    (send : HttpRequest → σ → Option HttpAnswer × σ) : Homeserver σ :=
  ⟨fun call s =>
    match send (c.request call) s with
    | (some answer, s) => (some (read call answer), s)
    | (none, s) => (some (.error (.transport "")), s)⟩

end HomeserverClient

end RoomReader
