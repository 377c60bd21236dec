import RoomReader.Count

namespace RoomReader.Pagination

/-!
# Pages of a list

Pages are counted from one; page zero is the whole list.
-/

/-- The positions of a page from the first up to the last. -/
def bounds (page pageSize length : Nat) : Nat × Nat :=
  if page = 0 then (0, length)
  else
    let start := min (Count.mul (page - 1) pageSize) length
    (start, min (Count.add start pageSize) length)

def slice {α : Type} (page pageSize : Nat) (xs : List α) : List α :=
  let (start, stop) := bounds page pageSize xs.length
  (xs.take stop).drop start

end RoomReader.Pagination
