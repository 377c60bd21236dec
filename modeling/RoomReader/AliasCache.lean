import RoomReader.Room.Basic

namespace RoomReader

/-!
# Resolved aliases

Where an alias leads is remembered for some time. A look-up that comes too late forgets it.
-/

structure CachedAlias where
  room : String
  resolvedAt : Time
deriving DecidableEq, Repr

structure AliasCache where
  entries : StringMap CachedAlias := ∅

namespace AliasCache

/-- One hour, in milliseconds. -/
def ttl : Int := 3600 * 1000

def size (c : AliasCache) : Nat := c.entries.size

/-- The room of an alias that was resolved less than `ttl` ago. -/
def lookup (c : AliasCache) (roomAlias : String) (ttl : Int) (now : Time) :
    Option String × AliasCache :=
  match c.entries[roomAlias]? with
  | none => (none, c)
  | some e =>
    if now - e.resolvedAt < ttl then (some e.room, c)
    else (none, { c with entries := c.entries.erase roomAlias })

def remember (c : AliasCache) (roomAlias room : String) (now : Time) : AliasCache :=
  { c with entries := c.entries.insert roomAlias { room, resolvedAt := now } }

end AliasCache

end RoomReader
