import Mathlib.Data.List.Basic
import RoomReader.Pagination

namespace RoomReader.Pagination

/-!
# The pages of a list in order

One after another, the pages of a list that can be counted are the list, cut where they end.
-/

variable {α : Type} {xs : List α}

@[simp] theorem slice_zero (pageSize : Nat) (xs : List α) : slice 0 pageSize xs = xs := by
  simp [slice, bounds]

theorem bounds_within (page pageSize length : Nat) :
    (bounds page pageSize length).1 ≤ (bounds page pageSize length).2 ∧
      (bounds page pageSize length).2 ≤ length := by
  unfold bounds
  split
  · exact ⟨Nat.zero_le _, Nat.le_refl _⟩
  · simp only [Count.add_eq, Count.mul_eq]
    omega

/-- In a list that can be counted, a page has the bounds that plain numbers give. -/
theorem bounds_succ {length : Nat} (hlength : length ≤ Count.limit) (k pageSize : Nat) :
    bounds (k + 1) pageSize length =
      (min (k * pageSize) length, min ((k + 1) * pageSize) length) := by
  rw [bounds, if_neg (Nat.add_one_ne_zero k), Nat.add_sub_cancel, Nat.add_one_mul]
  simp only [Count.add_eq, Count.mul_eq, Prod.mk.injEq]
  omega

theorem slice_succ (hlength : xs.length ≤ Count.limit) (k pageSize : Nat) :
    slice (k + 1) pageSize xs = (xs.drop (k * pageSize)).take pageSize := by
  simp only [slice, bounds_succ hlength]
  rw [← List.take_eq_take_min, List.drop_take, Nat.add_one_mul]
  rcases Nat.le_total (k * pageSize) xs.length with hle | hge
  · rw [Nat.min_eq_left hle, Nat.add_sub_cancel_left]
  · rw [Nat.min_eq_right hge, List.drop_length, List.drop_eq_nil_of_le hge, List.take_nil,
      List.take_nil]

/-- The first pages in a row. -/
theorem flatMap_slice (hlength : xs.length ≤ Count.limit) (pageSize n : Nat) :
    (List.range n).flatMap (fun k => slice (k + 1) pageSize xs) = xs.take (n * pageSize) := by
  induction n with
  | zero => simp
  | succ n ih =>
      rw [List.range_succ, List.flatMap_append, ih, List.flatMap_singleton, slice_succ hlength,
        Nat.succ_mul, List.take_add]

theorem slice_subset (page pageSize : Nat) (xs : List α) : slice page pageSize xs ⊆ xs :=
  fun _ h => List.mem_of_mem_take (List.mem_of_mem_drop h)

end RoomReader.Pagination
