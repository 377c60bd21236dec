import RoomReader.Count
import RoomReader.Homeserver.Exchange
import RoomReader.Room.Error
import RoomReader.Room.State

namespace RoomReader

/-!
# The timeline of a room

The buffered events, newest first. The buffer grows only at its two ends, by the answers to the
back and forward tokens, so it has no gaps. Redactions never enter it.
-/

/-- A window of the buffer, newest first, and whether it touches the old and the new end. -/
structure EventPage where
  events : List Event := []
  atTopEnd : Bool := false
  atBottomEnd : Bool := false

structure Timeline where
  events : List Event := []
  backToken : String := ""
  forwardToken : String := ""
  historicEndReached : Bool := false

namespace Timeline

/-- The least number of events asked for at once. -/
def minimumPagination : Nat := 64

/-- How many events are asked for to find an anchor. -/
def anchorBackfill : Nat := 100

/-- How many events beyond a page are to be buffered. -/
def safetyMargin : Nat := 32

/-- The events of a chunk that enter a buffer. -/
def kept (chunk : List Event) : List Event := chunk.filter (! ·.isRedaction)

/-- A buffer of the latest events of a room, given oldest first. -/
def ofChunk (chronological : List Event) (backToken forwardToken : String) : Timeline :=
  { events := kept chronological.reverse, backToken, forwardToken }

def length (t : Timeline) : Nat := t.events.length

def position? (t : Timeline) (eventId : String) : Option Nat :=
  t.events.findIdx? (·.id == eventId)

/-- Takes in older events. An answer without any says that the history ends here. -/
def extendBack (t : Timeline) (m : Messages) : Timeline :=
  { t with
    events := t.events ++ kept m.chunk
    backToken := m.endToken.getD t.backToken
    historicEndReached := t.historicEndReached || m.chunk.isEmpty }

/-- Takes in newer events, which come oldest first. -/
def extendForward (t : Timeline) (m : Messages) : Timeline :=
  { t with
    events := (kept m.chunk).reverse ++ t.events
    forwardToken := m.endToken.getD t.forwardToken }

/-- The state of a room after newer events. -/
def foldForward (s : RoomState) (m : Messages) : RoomState :=
  let s := s.apply (kept m.chunk) false
  if m.chunk.isEmpty then s else s.recalculate

/-- Asks for at least `amount` older events and gives the number that came. -/
def backpaginate (t : Timeline) (room : String) (amount : Nat) :
    Exchange (Except ApiError Nat × Timeline) := do
  match ← .messages room t.backToken .backward (max amount minimumPagination) with
  | .error e => return (.error e, t)
  | .ok m => return (.ok m.chunk.length, t.extendBack m)

/-- Asks for newer events, takes them into the room's state as well, and gives the number that
came. -/
def forwardPaginate (t : Timeline) (room : String) (s : RoomState) :
    Exchange (Except ApiError Nat × Timeline × RoomState) := do
  match ← .messages room t.forwardToken .forward minimumPagination with
  | .error e => return (.error e, t, s)
  | .ok m => return (.ok m.chunk.length, t.extendForward m, foldForward s m)

/-- The position of an event, for which older events are asked for once if need be. -/
def findAnchor (t : Timeline) (room anchor : String) :
    Exchange (Except ApiError (Option Nat) × Timeline) := do
  match t.position? anchor with
  | some i => return (.ok (some i), t)
  | none =>
    if t.historicEndReached then return (.ok none, t)
    match ← t.backpaginate room anchorBackfill with
    | (.error e, t) => return (.error e, t)
    | (.ok received, t) => return (.ok (if 0 < received then t.position? anchor else none), t)

/-- The position that a page is counted from; an empty anchor is the newest event. -/
def anchorIndex (t : Timeline) (room anchor : String) :
    Exchange (Except RoomError Nat × Timeline) := do
  if anchor.isEmpty then return (.ok 0, t)
  match ← t.findAnchor room anchor with
  | (.error e, t) => return (.error (.ofApi room e), t)
  | (.ok none, t) => return (.error (.anchorNotFound room anchor), t)
  | (.ok (some i), t) => return (.ok i, t)

/-- The positions from `start` up to `stop`. -/
def page (t : Timeline) (start stop : Nat) : EventPage :=
  { events := (t.events.take stop).drop start
    atTopEnd := stop == t.length
    atBottomEnd := start == 0 }

/-- The window of `pageSize` events that begins `offset` events beyond the anchor. -/
def olderWindow (length anchor offset pageSize : Nat) : Nat × Nat :=
  let start := min (Count.add anchor offset) length
  (start, min (Count.add start pageSize) length)

/-- The window of `pageSize` events whose older end is moved `back` events toward the present. -/
def newerWindow (length anchor back pageSize : Nat) : Nat × Nat :=
  let stop := min (Count.add anchor pageSize - back) length
  (stop - pageSize, stop)

/-- How far the buffer is to reach for a page. -/
def wanted (anchor offset pageSize : Nat) : Nat :=
  Count.add (Count.add (Count.add anchor offset) pageSize) safetyMargin

/-- Asks for older events if the buffer does not reach beyond a position. A failure is passed over:
the page is then served from what is buffered. -/
def reach (t : Timeline) (room : String) (wanted : Nat) : Exchange Timeline := do
  if !t.historicEndReached && t.length ≤ wanted then
    return (← t.backpaginate room (wanted - t.length)).2
  else return t

/-- The events around an anchor. An offset that is not negative leads into the past, and older
events are then asked for once; a negative one leads toward the present within the buffer. -/
def getPage (t : Timeline) (room anchor : String) (offset : Int) (pageSize : Nat) :
    Exchange (Except RoomError EventPage × Timeline) := do
  match ← t.anchorIndex room anchor with
  | (.error e, t) => return (.error e, t)
  | (.ok index, t) =>
    if 0 ≤ offset then
      let t ← t.reach room (wanted index offset.toNat pageSize)
      let (start, stop) := olderWindow t.length index offset.toNat pageSize
      return (.ok (t.page start stop), t)
    else
      let (start, stop) := newerWindow t.length index offset.natAbs pageSize
      return (.ok (t.page start stop), t)

end Timeline

end RoomReader
