import Mathlib.Data.List.Nodup
import Mathlib.Data.Nat.Basic
import Mathlib.Order.Basic
import RoomReader.Room.Timeline

namespace RoomReader

/-!
# Stretches of a log

A stretch of a log runs from one position up to another. Neighbouring stretches join, and a
stretch that lies within a log stays the same when the log grows at its end.
-/

/-- The entries of a log from position `i` up to position `j`. -/
def between {α : Type} (l : List α) (i j : Nat) : List α := (l.take j).drop i

section

variable {α : Type} {l l' : List α} {i j k : Nat}

theorem length_between (h : j ≤ l.length) : (between l i j).length = j - i := by
  simp [between, h]

theorem between_append (hij : i ≤ j) (hjk : j ≤ k) :
    between l i j ++ between l j k = between l i k := by
  have hsplit : l.take k = l.take j ++ (l.take k).drop j := by
    simpa [List.take_take, hjk] using (List.take_append_drop j (l.take k)).symm
  unfold between
  by_cases hlen : j ≤ l.length
  · have hi : i ≤ (l.take j).length := by simp [hij, hlen]
    calc
      (l.take j).drop i ++ (l.take k).drop j = (l.take j ++ (l.take k).drop j).drop i :=
        (List.drop_append_of_le_length hi).symm
      _ = (l.take k).drop i := by rw [← hsplit]
  · -- Beyond the end of the log the second stretch is empty.
    have hj : l.take j = l := List.take_of_length_le (by omega)
    have hk : l.take k = l := List.take_of_length_le (by omega)
    rw [hj, hk, List.drop_of_length_le (i := j) (by omega), List.append_nil]

@[simp] theorem between_self : between l i i = [] := by
  simp [between]

@[simp] theorem between_zero : between l 0 j = l.take j := rfl

theorem between_length : between l i l.length = l.drop i := by
  simp [between]

theorem between_sublist (l : List α) (i j : Nat) : (between l i j).Sublist l :=
  (List.drop_sublist _ _).trans (List.take_sublist _ _)

theorem between_subset_between (hij : i ≤ j) : between l j k ⊆ between l i k :=
  List.drop_subset_drop_left _ hij

theorem take_eq_take_of_isPrefix (h : l <+: l') (hj : j ≤ l.length) : l'.take j = l.take j := by
  obtain ⟨more, rfl⟩ := h
  exact List.take_append_of_le_length hj

theorem between_eq_of_isPrefix (h : l <+: l') (hj : j ≤ l.length) :
    between l' i j = between l i j := by
  rw [between, take_eq_take_of_isPrefix h hj, between]

/-- A stretch keeps what it shows when entries are appended. It becomes longer only if it reached to
the end and was cut short there. -/
theorem exists_between_append (h : l <+: l') (hij : i ≤ j) :
    ∃ more, between l' (min i l'.length) (min j l'.length) =
        between l (min i l.length) (min j l.length) ++ more ∧
      (min j l.length ≠ l.length ∨ (between l (min i l.length) (min j l.length)).length = j - i →
        more = []) := by
  have hle := h.length_le
  have hlength : (between l (min i l.length) (min j l.length)).length =
      min j l.length - min i l.length := length_between (Nat.min_le_right _ _)
  by_cases hi : i ≤ l.length
  · have hshown : between l' i (min j l.length) = between l i (min j l.length) :=
      between_eq_of_isPrefix h (Nat.min_le_right _ _)
    have hjoin : between l' i (min j l.length) ++ between l' (min j l.length) (min j l'.length) =
        between l' i (min j l'.length) := between_append (by omega) (by omega)
    rw [Nat.min_eq_left hi] at hlength ⊢
    rw [Nat.min_eq_left (hi.trans hle), ← hjoin, hshown]
    refine ⟨_, rfl, ?_⟩
    rw [hlength]
    intro hfull
    have hsame : min j l'.length = min j l.length := by omega
    rw [hsame, between_self]
  · -- The stretch lies beyond the end, so it shows nothing yet.
    have hj : min j l.length = min i l.length := by omega
    rw [hj, between_self]
    refine ⟨_, (List.nil_append _).symm, ?_⟩
    intro hempty
    have hsame : min j l'.length = min i l'.length := by
      rw [List.length_nil] at hempty
      omega
    rw [hsame, between_self]

end

namespace Timeline

@[simp] theorem kept_nil : kept [] = [] := rfl

@[simp] theorem kept_append (l m : List Event) : kept (l ++ m) = kept l ++ kept m :=
  List.filter_append ..

@[simp] theorem kept_reverse (l : List Event) : kept l.reverse = (kept l).reverse :=
  List.filter_reverse ..

end Timeline

end RoomReader
