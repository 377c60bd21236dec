namespace RoomReader

/-!
# Connections to a homeserver

A fixed number of connections, which are used in turn.
-/

structure Connections where
  size : Nat
  /-- How often a connection was taken. -/
  taken : Nat := 0
deriving DecidableEq, Repr

namespace Connections

/-- At least one connection. -/
def ofSize (size : Nat) : Connections := { size := max size 1 }

/-- The connection whose turn it is. -/
def take (c : Connections) : Nat × Connections :=
  (c.taken % c.size, { c with taken := c.taken + 1 })

end Connections

end RoomReader
