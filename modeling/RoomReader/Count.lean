namespace RoomReader.Count

/-!
# Counts

Sizes, page numbers and positions are natural numbers up to `limit`. Sums and products that would
pass the limit stay at it.
-/

/-- The largest count, which has 64 binary digits. -/
def limit : Nat := 18446744073709551615

def add (a b : Nat) : Nat := min (a + b) limit

def mul (a b : Nat) : Nat := min (a * b) limit

theorem add_eq (a b : Nat) : add a b = min (a + b) limit := rfl

theorem mul_eq (a b : Nat) : mul a b = min (a * b) limit := rfl

end RoomReader.Count
