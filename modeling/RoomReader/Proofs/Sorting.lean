import Mathlib.Data.List.Sort
import Mathlib.Data.String.Basic

namespace RoomReader

/-!
# Sorting by a comparison

If no two things compare as equal, sorting them gives a strictly ordered list, and there is only one
such list. Things of different names are sorted by size and then by name.
-/

section Sorting

variable {α : Type} {order : α → α → Ordering} [Std.TransCmp order] {xs ys : List α}

theorem pairwise_isLE_mergeSort (order : α → α → Ordering) [Std.TransCmp order] (xs : List α) :
    (xs.mergeSort fun a b => (order a b).isLE).Pairwise fun a b => (order a b).isLE = true := by
  refine List.pairwise_mergeSort (fun _ _ _ => Std.TransCmp.isLE_trans) (fun a b => ?_) xs
  have hswap : order b a = (order a b).swap := Std.OrientedCmp.eq_swap
  rw [Bool.or_eq_true, hswap]
  cases order a b <;> simp

theorem pairwise_lt_mergeSort (h : xs.Pairwise fun a b => order a b ≠ .eq) :
    (xs.mergeSort fun a b => (order a b).isLE).Pairwise fun a b => order a b = .lt := by
  have hne : (xs.mergeSort fun a b => (order a b).isLE).Pairwise fun a b => order a b ≠ .eq := by
    refine (List.Perm.pairwise_iff ?_ (List.mergeSort_perm ..)).2 h
    intro a b hab heq
    exact hab (Std.OrientedCmp.eq_symm heq)
  refine (pairwise_isLE_mergeSort order xs).imp₂ (fun a b hle hne => ?_) hne
  cases hab : order a b with
  | lt => rfl
  | eq => exact absurd hab hne
  | gt => simp [hab] at hle

theorem eq_of_pairwise_lt (hx : xs.Pairwise fun a b => order a b = .lt)
    (hy : ys.Pairwise fun a b => order a b = .lt) (h : ∀ a, a ∈ xs ↔ a ∈ ys) : xs = ys := by
  have : Std.Irrefl fun a b => order a b = .lt := ⟨fun a ha => by
    have heq : order a a = .eq := Std.ReflCmp.compare_self
    cases ha.symm.trans heq⟩
  have : Std.Antisymm fun a b => order a b = .lt := ⟨fun a b hab hba => by
    have hswap : order a b = (order b a).swap := Std.OrientedCmp.eq_swap
    rw [hab, hba] at hswap
    cases hswap⟩
  exact hx.eq_of_mem_iff hy h

theorem transCmp_descending {β : Type} [Ord β] [Std.TransOrd β] (f : α → β) :
    Std.TransCmp fun a b => compare (f b) (f a) :=
  inferInstanceAs (Std.TransCmp fun a b => compareOn f b a)

end Sorting

section BySize

variable {α : Type} (size : α → Nat) (name : α → String) {a b : α} {xs ys : List α}

/-- Larger things come first, then names. -/
def LargerFirst (a b : α) : Prop :=
  size b < size a ∨ size b = size a ∧ name a < name b

def bySize (a b : α) : Ordering := (compare (size b) (size a)).then (compare (name a) (name b))

instance : Std.TransCmp (bySize size name) :=
  have := transCmp_descending size
  inferInstanceAs (Std.TransCmp (compareLex (fun a b => compare (size b) (size a))
    (compareOn name)))

theorem bySize_eq_lt_iff : bySize size name a b = .lt ↔ LargerFirst size name a b := by
  simp only [bySize, LargerFirst, Ordering.then_eq_lt, compare_lt_iff_lt, Std.compare_eq_iff_eq]

theorem name_eq_of_bySize_eq (h : bySize size name a b = .eq) : name a = name b := by
  simp only [bySize, Ordering.then_eq_eq, Std.compare_eq_iff_eq] at h
  exact h.2

/-- Things with different names are sorted strictly. -/
theorem pairwise_mergeSort_bySize (h : (xs.map name).Nodup) :
    (xs.mergeSort fun a b => (bySize size name a b).isLE).Pairwise (LargerFirst size name) := by
  rw [List.Nodup, List.pairwise_map] at h
  have hne : xs.Pairwise fun a b => bySize size name a b ≠ .eq :=
    h.imp fun hne heq => hne (name_eq_of_bySize_eq size name heq)
  exact (pairwise_lt_mergeSort hne).imp (bySize_eq_lt_iff size name).1

variable {size name}

theorem eq_of_pairwise_largerFirst (hx : xs.Pairwise (LargerFirst size name))
    (hy : ys.Pairwise (LargerFirst size name)) (h : ∀ a, a ∈ xs ↔ a ∈ ys) : xs = ys :=
  eq_of_pairwise_lt (hx.imp (bySize_eq_lt_iff size name).2)
    (hy.imp (bySize_eq_lt_iff size name).2) h

end BySize

end RoomReader
