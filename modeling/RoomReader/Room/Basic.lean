import RoomReader.Media
import RoomReader.Room.Timeline

namespace RoomReader

/-!
# Cached rooms

A room is loaded by one initial sync. Its state comes from the sync's state events alone, its
timeline from the sync's messages.
-/

/-- What every room is loaded and shown with. -/
structure RoomSettings where
  syncLimit : Nat := 256
  /-- The host that avatars are taken from. -/
  mediaBase : String
deriving Repr

/-- What heads every page about a room. -/
structure RoomInfo where
  roomId : String
  name : String
  canonicalAlias : Option String
  topic : Option String
  avatarUrl : Option String
  numMemberEvents : Nat
  numMembers : Nat
  numServers : Nat
deriving DecidableEq, Repr

/-- Times are milliseconds since the start of 1970. -/
abbrev Time := Int

structure Room where
  id : String
  timeline : Timeline
  state : RoomState
  lastAccess : Time

namespace Room

def ofSync (id : String) (now : Time) (sync : InitialSync) : Room :=
  { id
    timeline := .ofChunk sync.messages.chunk (sync.messages.startToken.getD "")
      (sync.messages.endToken.getD "")
    state := (({} : RoomState).apply sync.state false).recalculate
    lastAccess := now }

def load (settings : RoomSettings) (now : Time) (id : String) :
    Exchange (Except RoomError Room) := do
  match ← .call (.sync id settings.syncLimit) with
  | .error e => return .error (.ofApi id e)
  | .ok sync => return .ok (ofSync id now sync)

def info (settings : RoomSettings) (r : Room) : RoomInfo :=
  { roomId := r.id
    name := r.state.displayName
    canonicalAlias := r.state.canonicalAlias
    topic := r.state.topic
    avatarUrl := r.state.avatarUrl.bind (Media.download? · settings.mediaBase)
    numMemberEvents := r.state.numMemberEvents
    numMembers := r.state.members.length
    numServers := r.state.servers.length }

def access (r : Room) (now : Time) : Room := { r with lastAccess := now }

/-- Reads a page, which counts as an access whatever comes of it. -/
def getPage (now : Time) (anchor : String) (offset : Int) (pageSize : Nat) (r : Room) :
    Exchange (Except RoomError EventPage × Room) := do
  let (page, timeline) ← r.timeline.getPage r.id anchor offset pageSize
  return (page, { r with timeline, lastAccess := now })

/-- Takes in what is new, which is no access. -/
def forwardPaginate (r : Room) : Exchange (Except RoomError Nat × Room) := do
  let (received, timeline, state) ← r.timeline.forwardPaginate r.id r.state
  return (received.mapError (RoomError.ofApi r.id), { r with timeline, state })

end Room

end RoomReader
