import RoomReader.Event.Codec

namespace RoomReader

/-!
# The state of a room

State events are folded one after another: a value that an event presents replaces the one before,
and a value that it leaves out stays. From the members, power levels and aliases the roster is
derived: the sorted lists of joined members, of their servers, and of the published aliases.
-/

structure Member where
  userId : String
  membership : String
  displayName : Option String
  avatarUrl : Option String
  powerLevel : Int64
deriving DecidableEq, Repr

namespace Member

/-- Before any of its contents has been seen. -/
def unseen (userId : String) : Member :=
  { userId, membership := "leave", displayName := none, avatarUrl := none, powerLevel := 0 }

/-- The display name, or the user id where there is none. -/
def name (m : Member) : String :=
  match m.displayName with
  | some n => if n.isEmpty then m.userId else n
  | none => m.userId

def merge (m : Member) (c : MemberContent) : Member :=
  { m with
    membership := c.membership.getD m.membership
    displayName := c.displayName <|> m.displayName
    avatarUrl := c.avatarUrl <|> m.avatarUrl }

def isJoined (m : Member) : Bool := m.membership == "join"

/-- Higher levels first, then by name, then by user id. -/
def order (a b : Member) : Ordering :=
  (compare b.powerLevel.toInt a.powerLevel.toInt).then
    ((compare a.name b.name).then (compare a.userId b.userId))

/-- The text after the first colon of the user id. -/
def server? (m : Member) : Option String :=
  match m.userId.toList.dropWhile (· ≠ ':') with
  | [] => none
  | _ :: server => some (String.ofList server)

end Member

structure ServerUsers where
  serverName : String
  numUsers : Nat
deriving DecidableEq, Repr

/-- More users first, then by name. -/
def ServerUsers.order (a b : ServerUsers) : Ordering :=
  (compare b.numUsers a.numUsers).then (compare a.serverName b.serverName)

structure ServerAliases where
  serverName : String
  aliases : List String
deriving DecidableEq, Repr

/-- More aliases first, then by name. -/
def ServerAliases.order (a b : ServerAliases) : Ordering :=
  (compare b.aliases.length a.aliases.length).then (compare a.serverName b.serverName)

/-- What is derived from a room's members and aliases. -/
structure Roster where
  members : List Member := []
  servers : List ServerUsers := []
  aliases : List ServerAliases := []
deriving DecidableEq, Repr

namespace Roster

def joined (members : List Member) : List Member :=
  (members.filter Member.isJoined).mergeSort fun a b => (a.order b).isLE

/-- How often each name occurs. -/
def tally (names : List String) : StringMap Nat :=
  names.foldl (fun m n => m.insert n (m[n]?.getD 0 + 1)) ∅

def serversOf (members : List Member) : List ServerUsers :=
  ((tally (members.filterMap Member.server?)).toList.map fun e => ⟨e.1, e.2⟩).mergeSort
    fun a b => (a.order b).isLE

def aliasesOf (aliases : StringMap (List String)) : List ServerAliases :=
  (aliases.toList.map fun e => ⟨e.1, e.2.mergeSort fun a b => (compare a b).isLE⟩).mergeSort
    fun a b => (a.order b).isLE

def ofMaps (members : StringMap Member) (aliases : StringMap (List String)) : Roster :=
  let joined := joined (members.toList.map (·.2))
  { members := joined, servers := serversOf joined, aliases := aliasesOf aliases }

end Roster

structure RoomState where
  creator : Option String := none
  roomVersion : Option String := none
  name : Option String := none
  topic : Option String := none
  canonicalAlias : Option String := none
  avatarUrl : Option String := none
  powerLevels : PowerLevels := {}
  memberMap : StringMap Member := ∅
  aliasMap : StringMap (List String) := ∅
  roster : Roster := {}

namespace RoomState

/-- The contents that a member event brings, in the order in which they count. -/
def memberContents (e : Event) (c : MemberContent) (usePrev : Bool) : List MemberContent :=
  (if usePrev then e.prevMember?.toList else []) ++ [c]

/-- Takes in one event. Only events with a state key are state. With `usePrev` a member event first
brings its previous content. -/
def applyEvent (s : RoomState) (e : Event) (usePrev : Bool) : RoomState :=
  match e.stateKey with
  | none => s
  | some key =>
    match e.content with
    | .create c =>
      { s with creator := c.creator <|> s.creator, roomVersion := c.roomVersion <|> s.roomVersion }
    | .name c => { s with name := c.name <|> s.name }
    | .topic c => { s with topic := c.topic <|> s.topic }
    | .avatar c => { s with avatarUrl := c.url <|> s.avatarUrl }
    | .canonicalAlias c => { s with canonicalAlias := c.roomAlias <|> s.canonicalAlias }
    | .aliases c =>
      if c.aliases.isEmpty then s else { s with aliasMap := s.aliasMap.insert key c.aliases }
    | .member c =>
      let known := s.memberMap[key]?.getD (Member.unseen key)
      let member := (memberContents e c usePrev).foldl Member.merge known
      { s with memberMap := s.memberMap.insert key member }
    | .powerLevels levels => { s with powerLevels := levels }
    | .redaction _ => s
    | .other _ _ => s

def apply (s : RoomState) (events : List Event) (usePrev : Bool) : RoomState :=
  events.foldl (fun s e => s.applyEvent e usePrev) s

/-- Gives each member the level of the power level table and derives the roster anew. -/
def recalculate (s : RoomState) : RoomState :=
  let members := s.memberMap.map fun _ m =>
    { m with powerLevel := s.powerLevels.userLevel m.userId }
  { s with memberMap := members, roster := Roster.ofMaps members s.aliasMap }

/-- Joined members, highest power level first. -/
def members (s : RoomState) : List Member := s.roster.members

def servers (s : RoomState) : List ServerUsers := s.roster.servers

def aliases (s : RoomState) : List ServerAliases := s.roster.aliases

/-- How many users have a membership event. -/
def numMemberEvents (s : RoomState) : Nat := s.memberMap.size

def member? (s : RoomState) (userId : String) : Option Member := s.memberMap[userId]?

def emptyRoomName : String := "Empty Room"

def nonempty? (t : Option String) : Option String := t.filter (! ·.isEmpty)

/-- The name, else the canonical alias, else the first published alias. -/
def displayName (s : RoomState) : String :=
  (nonempty? s.name
    <|> nonempty? s.canonicalAlias
    <|> (Roster.aliasesOf s.aliasMap).findSome? (·.aliases.head?)).getD emptyRoomName

end RoomState

end RoomReader
