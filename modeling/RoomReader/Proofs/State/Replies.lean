import RoomReader.Pool.Worker
import RoomReader.Proofs.Calls
import RoomReader.Proofs.Pagination
import RoomReader.Proofs.State.Derived
import RoomReader.Proofs.Timeline.Service

namespace RoomReader

/-!
# Replies agree with one another

Every reply about a cached room shows the room's state as it is derived. What a reply counts is as
long as the list that would be replied in the same state, and what it tells of a member is what the
power level table of that state says.
-/

namespace Job

/-- The members that a reply tells of. -/
def shown : (job : Job) → job.Reply → List Member
  | eventsPage .., reply => reply.memberMap.toList.map (·.2)
  | members .., reply => reply.entries
  | memberInfo .., reply => [reply.member]
  | initialSync _, _ => []
  | servers .., _ => []
  | aliases .., _ => []
  | powerLevels _, _ => []

end Job

namespace Worker

section

variable {w w' : Worker} {settings : RoomSettings} {now : Time} {job : Job} {reply : job.Reply}
  {r : Room} {s : RoomState} {events : List Event}

theorem withRoom_of_getElem? {α : Type} {room : String} (hr : w.rooms[room]? = some r) (now : Time)
    (view : Room → α) :
    w.withRoom now room view =
      (.ok (view r), { w with rooms := w.rooms.insert room (r.access now) }) := by
  simp only [withRoom, hr]

theorem within_getPage_state (now : Time) (anchor : String) (offset : Int) (pageSize : Nat) :
    (r.getPage now anchor offset pageSize).Within (fun _ => True) fun p => p.2.state = r.state := by
  unfold Room.getPage
  refine ((r.timeline.within_getPage r.id anchor offset pageSize).mono
    (fun _ _ => trivial) fun _ h => h).bind fun p _ => ?_
  exact .done rfl

end

end Worker

end RoomReader

/-! The small room with a member of some level. It is read back to its start, and then a second
member joins. -/

namespace RoomReader.SmallRoom

open RoomReader.Timeline

def joining (user : String) : Event :=
  { Event.message ("$join " ++ user) with
    stateKey := some user, content := .member { membership := some "join" } }

def promoting (user : String) (level : Int64) : Event :=
  { Event.message ("$level " ++ user) with
    stateKey := some ""
    content := .powerLevels { users := StringMap.ofEntries [(user, level)] } }

def peopled (later : List Event) (h : later.length < 9) : LogServer.With room :=
  ⟨({} : LogServer).setRoom room
      { history := .message "$0" :: later
        state := [joining "@alice:hs.one", promoting "@alice:hs.one" 100] },
    { history := .message "$0" :: later
      state := [joining "@alice:hs.one", promoting "@alice:hs.one" 100] },
    by simp [LogServer.setRoom], by
      simp only [List.length_cons, Count.limit]
      omega⟩

def alone : LogServer.With room := peopled [] (by decide)

def joined : LogServer.With room := peopled [joining "@bob:hs.one"] (by decide)

def answered (s : LogServer.With room) (c : Call) : Answered := ⟨c, s.1.answer c⟩

/-- Rooms are loaded with one message. -/
def oneEach : RoomSettings := { syncLimit := 1, mediaBase := "" }

/-- The room of one member. -/
def ofOne : Room := Room.ofSync room 0
  { messages :=
      { chunk := [.message "$0"], startToken := some "t0", endToken := some "t1" }
    state := [joining "@alice:hs.one", promoting "@alice:hs.one" 100] }

def heardOf : Messages :=
  { chunk := [joining "@bob:hs.one"], startToken := some "t1", endToken := some "t2" }

def ofTwo : Config (LogServer.With room × List Answered) :=
  ⟨{ events := [joining "@bob:hs.one", .message "$0"], backToken := "t0", forwardToken := "t2"
     historicEndReached := true },
    foldForward ofOne.state heardOf,
    (joined, [answered alone (.sync room 1),
      answered alone (.messages room "t0" .backward 64),
      answered joined (.messages room "t1" .forward 64)])⟩

theorem load_ofOne :
    (Room.load oneEach 0 room).run (LogServer.serving room).recorded (alone, []) =
      (some (.ok ofOne), (alone, [answered alone (.sync room 1)])) := rfl

/-- The room of one member, read back to its start. -/
def readBack (s : LogServer.With room) : Config (LogServer.With room × List Answered) :=
  ⟨{ ofOne.timeline with historicEndReached := true }, ofOne.state,
    (s, [answered alone (.sync room 1), answered alone (.messages room "t0" .backward 64)])⟩

theorem run_ofTwo :
    Run (LogServer.serving room).recorded room Unnoted
      ⟨ofOne.timeline, ofOne.state, (alone, [answered alone (.sync room 1)])⟩ ofTwo := by
  have hread : Run (LogServer.serving room).recorded room Unnoted
      ⟨ofOne.timeline, ofOne.state, (alone, [answered alone (.sync room 1)])⟩ (readBack alone) :=
    .single (.act (.page "" 0 10) rfl)
  have hgrown : Run (LogServer.serving room).recorded room Unnoted (readBack alone)
      (readBack joined) := .single (.grown rfl)
  exact (hread.trans hgrown).tail (.act .forward rfl)

end RoomReader.SmallRoom
