namespace RoomReader

/-!
# Parts between separators
-/

/-- The parts of a list before, between and after the separators. -/
def splitAtEach {α : Type} [BEq α] (separator : α) : List α → List (List α)
  | [] => [[]]
  | a :: rest =>
    if a == separator then [] :: splitAtEach separator rest
    else
      match splitAtEach separator rest with
      | [] => [[a]]
      | part :: parts => (a :: part) :: parts

theorem splitAtEach_ne_nil {α : Type} [BEq α] (separator : α) (xs : List α) :
    splitAtEach separator xs ≠ [] := by
  cases xs with
  | nil => simp [splitAtEach]
  | cons a rest =>
    unfold splitAtEach
    split
    · simp
    · split <;> simp

theorem mem_of_mem_splitAtEach {α : Type} [BEq α] {separator a : α} {xs part : List α}
    (hpart : part ∈ splitAtEach separator xs) (ha : a ∈ part) : a ∈ xs := by
  induction xs generalizing part with
  | nil =>
    obtain rfl := List.mem_singleton.1 hpart
    exact ha
  | cons b xs ih =>
    obtain ⟨first, parts, h⟩ := List.exists_cons_of_ne_nil (splitAtEach_ne_nil separator xs)
    rw [splitAtEach, h] at hpart
    rw [h] at ih
    split at hpart
    · rcases List.mem_cons.1 hpart with rfl | hpart
      · cases ha
      · exact List.mem_cons_of_mem _ (ih hpart ha)
    · rcases List.mem_cons.1 hpart with rfl | hpart
      · rcases List.mem_cons.1 ha with rfl | ha
        · exact List.mem_cons_self
        · exact List.mem_cons_of_mem _ (ih List.mem_cons_self ha)
      · exact List.mem_cons_of_mem _ (ih (List.mem_cons_of_mem _ hpart) ha)

section

variable {α : Type} [BEq α] [LawfulBEq α] {separator : α}

theorem splitAtEach_append_cons (xs ys : List α) :
    splitAtEach separator (xs ++ separator :: ys) =
      splitAtEach separator xs ++ splitAtEach separator ys := by
  induction xs with
  | nil => simp [splitAtEach]
  | cons a xs ih =>
    obtain ⟨part, parts, h⟩ := List.exists_cons_of_ne_nil (splitAtEach_ne_nil separator xs)
    rw [List.cons_append, splitAtEach, splitAtEach, ih, h]
    split <;> rfl

theorem splitAtEach_of_not_mem {xs : List α} (h : separator ∉ xs) :
    splitAtEach separator xs = [xs] := by
  induction xs with
  | nil => rfl
  | cons a xs ih =>
    have ha : (a == separator) = false := by
      rw [beq_eq_false_iff_ne]
      rintro rfl
      exact h List.mem_cons_self
    rw [splitAtEach, ih fun hmem => h (List.mem_cons_of_mem _ hmem), ha]
    rfl

/-- Splitting takes joined parts apart again. -/
theorem splitAtEach_intercalate {parts : List (List α)} (hne : parts ≠ [])
    (h : ∀ part ∈ parts, separator ∉ part) :
    splitAtEach separator ([separator].intercalate parts) = parts := by
  induction parts with
  | nil => exact absurd rfl hne
  | cons part rest ih =>
    have hpart := splitAtEach_of_not_mem (h part List.mem_cons_self)
    cases rest with
    | nil => rw [List.intercalate_singleton, hpart]
    | cons next rest =>
      have hrest := ih (List.cons_ne_nil _ _) fun p hp => h p (List.mem_cons_of_mem _ hp)
      rw [List.intercalate_cons_cons, List.append_assoc, List.singleton_append,
        splitAtEach_append_cons, hpart, hrest, List.singleton_append]

end

end RoomReader
