import RoomReader.Homeserver.Exchange
import RoomReader.Text.Integer

namespace RoomReader

/-!
# A homeserver of logs

Each room is a log of events that grows at its end. A token names a position in the log, that is
the number of events before it. Backward from a position the events are listed newest first, and
the answer to an empty rest has no further token; forward they are listed oldest first, and the
answer always has one.
-/

namespace Position

/-- The token of a position. -/
def token (n : Nat) : String := "t" ++ toString n

/-- The position that a token names; any other text names the start. -/
def ofToken (s : String) : Nat :=
  match s.toList with
  | 't' :: rest => (Integer.count? (String.ofList rest)).getD 0
  | _ => 0

end Position

/-- The events of a room, oldest first, and its current state. -/
structure RoomLog where
  history : List Event := []
  state : List Event := []

namespace RoomLog

def push (l : RoomLog) (events : List Event) : RoomLog :=
  { l with history := l.history ++ events }

/-- The state and the latest events. -/
def sync (l : RoomLog) (limit : Nat) : InitialSync :=
  let start := l.history.length - limit
  { messages :=
      { chunk := l.history.drop start
        startToken := some (Position.token start)
        endToken := some (Position.token l.history.length) }
    state := l.state }

/-- The events before a position, newest first. -/
def backward (l : RoomLog) (position limit : Nat) : Messages :=
  let start := position - limit
  let chunk := ((l.history.take position).drop start).reverse
  { chunk
    startToken := some (Position.token position)
    endToken := if chunk.isEmpty then none else some (Position.token start) }

/-- The events from a position on, oldest first. -/
def forward (l : RoomLog) (position limit : Nat) : Messages :=
  let chunk := (l.history.drop position).take limit
  { chunk
    startToken := some (Position.token position)
    endToken := some (Position.token (position + chunk.length)) }

def messages (l : RoomLog) (fromToken : String) (direction : Direction) (limit : Nat) : Messages :=
  let position := min (Position.ofToken fromToken) l.history.length
  match direction with
  | .backward => l.backward position limit
  | .forward => l.forward position limit

end RoomLog

/-- The rooms of a homeserver, its public directory, and where its aliases lead. -/
structure LogServer where
  rooms : StringMap RoomLog := ∅
  directory : List PublicRoom := []
  aliases : StringMap String := ∅

namespace LogServer

def forbidden : ApiError := .matrix 403 "M_FORBIDDEN" "Guest access not allowed"

def noAlias : ApiError := .matrix 404 "M_NOT_FOUND" "Room alias not found"

def room (s : LogServer) (id : String) : Except ApiError RoomLog :=
  match s.rooms[id]? with
  | some l => .ok l
  | none => .error forbidden

def setRoom (s : LogServer) (id : String) (l : RoomLog) : LogServer :=
  { s with rooms := s.rooms.insert id l }

/-- Appends events to the log of a room. -/
def push (s : LogServer) (id : String) (events : List Event) : LogServer :=
  s.setRoom id ((s.rooms[id]?.getD {}).push events)

def setAlias (s : LogServer) (roomAlias room : String) : LogServer :=
  { s with aliases := s.aliases.insert roomAlias room }

def answer (s : LogServer) : (c : Call) → Except ApiError c.Reply
  | .sync room limit => (s.room room).map (·.sync limit)
  | .messages room fromToken direction limit =>
    (s.room room).map (·.messages fromToken direction limit)
  | .publicRooms => .ok { chunk := s.directory }
  | .resolveAlias roomAlias =>
    match s.aliases[roomAlias]? with
    | some room => .ok { roomId := room }
    | none => .error noAlias

/-- Every call is answered, and none of them changes the logs. -/
def homeserver : Homeserver LogServer := ⟨fun c s => (some (s.answer c), s)⟩

end LogServer

end RoomReader
