import RoomReader.Pagination
import RoomReader.Pool.Shard
import RoomReader.Room.Basic

namespace RoomReader

/-!
# Workers

A worker holds cached rooms and does one job after another on them. Every job that reads a room
stamps its access. A sweep drops rooms that were not accessed for long and brings the others up to
date.
-/

/-- A job on one room. -/
inductive Job where
  | initialSync (room : String)
  | eventsPage (room anchor : String) (offset : Int) (pageSize : Nat)
  | members (room : String) (page pageSize : Nat)
  | servers (room : String) (page pageSize : Nat)
  | aliases (room : String) (page pageSize : Nat)
  | memberInfo (room user : String)
  | powerLevels (room : String)
deriving DecidableEq, Repr

def Job.room : Job → String
  | initialSync room => room
  | eventsPage room .. => room
  | members room .. => room
  | servers room .. => room
  | aliases room .. => room
  | memberInfo room _ => room
  | powerLevels room => room

structure EventsReply where
  info : RoomInfo
  events : List Event
  /-- The members who sent the events. -/
  memberMap : StringMap Member
  atTopEnd : Bool
  atBottomEnd : Bool

/-- A page of a list, with the page number and size that were asked for. -/
structure ListReply (α : Type) where
  info : RoomInfo
  entries : List α
  page : Nat
  pageSize : Nat

structure MemberReply where
  info : RoomInfo
  member : Member
  role : String

structure LevelsReply where
  info : RoomInfo
  levels : PowerLevels

/-- What a job replies. -/
abbrev Job.Reply : Job → Type
  | initialSync _ => Unit
  | eventsPage .. => EventsReply
  | members .. => ListReply Member
  | servers .. => ListReply ServerUsers
  | aliases .. => ListReply ServerAliases
  | memberInfo .. => MemberReply
  | powerLevels _ => LevelsReply

structure Worker where
  rooms : StringMap Room := ∅

namespace Worker

/-- Looks at a cached room and stamps the access. -/
def withRoom {α : Type} (w : Worker) (now : Time) (room : String) (view : Room → α) :
    Except RoomError α × Worker :=
  match w.rooms[room]? with
  | none => (.error (.notLoaded room), w)
  | some r => (.ok (view r), { w with rooms := w.rooms.insert room (r.access now) })

/-- Loads a room unless it is cached. -/
def initialSync (settings : RoomSettings) (now : Time) (room : String) (w : Worker) :
    Exchange (Except RoomError Unit × Worker) := do
  match w.rooms[room]? with
  | some r => return (.ok (), { w with rooms := w.rooms.insert room (r.access now) })
  | none =>
    match ← Room.load settings now room with
    | .error e => return (.error e, w)
    | .ok r => return (.ok (), { w with rooms := w.rooms.insert room r })

/-- The members of a room among the senders of events. -/
def senders (s : RoomState) (events : List Event) : StringMap Member :=
  StringMap.ofEntries (events.filterMap fun e => (s.member? e.sender).map fun m => (m.userId, m))

def eventsPage (settings : RoomSettings) (now : Time) (room anchor : String) (offset : Int)
    (pageSize : Nat) (w : Worker) : Exchange (Except RoomError EventsReply × Worker) := do
  match w.rooms[room]? with
  | none => return (.error (.notLoaded room), w)
  | some r =>
    let (page, r) ← r.getPage now anchor offset pageSize
    let reply := page.map fun page : EventPage =>
      { info := r.info settings
        events := page.events
        memberMap := senders r.state page.events
        atTopEnd := page.atTopEnd
        atBottomEnd := page.atBottomEnd : EventsReply }
    return (reply, { w with rooms := w.rooms.insert room r })

/-- A page of one of a room's lists. -/
def listPage {α : Type} (settings : RoomSettings) (page pageSize : Nat) (list : RoomState → List α)
    (r : Room) : ListReply α :=
  { info := r.info settings
    entries := Pagination.slice page pageSize (list r.state)
    page, pageSize }

def memberReply? (settings : RoomSettings) (user : String) (r : Room) : Option MemberReply :=
  (r.state.member? user).map fun member =>
    { info := r.info settings, member, role := roleOfLevel member.powerLevel }

/-- A member of a room. Looking for one counts as an access even if there is none. -/
def memberInfo (settings : RoomSettings) (now : Time) (room user : String) (w : Worker) :
    Except RoomError MemberReply × Worker :=
  match w.withRoom now room (memberReply? settings user) with
  | (.ok (some reply), w) => (.ok reply, w)
  | (.ok none, w) => (.error (.memberNotFound room user), w)
  | (.error e, w) => (.error e, w)

def handle (settings : RoomSettings) (now : Time) (w : Worker) :
    (job : Job) → Exchange (Except RoomError job.Reply × Worker)
  | .initialSync room => w.initialSync settings now room
  | .eventsPage room anchor offset pageSize =>
    w.eventsPage settings now room anchor offset pageSize
  | .members room page pageSize =>
    return w.withRoom now room (listPage settings page pageSize RoomState.members)
  | .servers room page pageSize =>
    return w.withRoom now room (listPage settings page pageSize RoomState.servers)
  | .aliases room page pageSize =>
    return w.withRoom now room (listPage settings page pageSize RoomState.aliases)
  | .memberInfo room user => return w.memberInfo settings now room user
  | .powerLevels room =>
    return w.withRoom now room fun r => { info := r.info settings, levels := r.state.powerLevels }

end Worker

end RoomReader
