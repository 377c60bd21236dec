import RoomReader.Text.Utf8

namespace RoomReader.Shard

/-!
# Which worker owns a room

A room belongs to the worker at its hash modulo the number of workers.
-/

def offsetBasis : UInt32 := 0x811C9DC5

def prime : UInt32 := 0x01000193

/-- The 32-bit FNV-1a hash. -/
def fnv1a (data : Bytes) : UInt32 :=
  data.foldl (fun hash b => (hash ^^^ b.toUInt32) * prime) offsetBasis

def ofRoom (room : String) (numWorkers : Nat) : Nat :=
  (fnv1a (Utf8.encode room)).toNat % max numWorkers 1

theorem ofRoom_lt (room : String) {n : Nat} (h : 0 < n) : ofRoom room n < n := by
  unfold ofRoom
  rw [Nat.max_eq_left h]
  exact Nat.mod_lt _ h

end RoomReader.Shard
