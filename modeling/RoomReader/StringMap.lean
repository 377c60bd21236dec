import Std.Data.ExtTreeMap

namespace RoomReader

/-!
# Maps with text keys

A map is determined by its look-ups, and its entries are listed in the order of their keys.
-/

abbrev StringMap (α : Type) := Std.ExtTreeMap String α

namespace StringMap

variable {α : Type}

/-- Of two entries with one key the later one counts. -/
def ofEntries (entries : List (String × α)) : StringMap α :=
  entries.foldl (fun m e => m.insert e.1 e.2) ∅

theorem getElem?_insert (m : StringMap α) (key other : String) (a : α) :
    (m.insert key a)[other]? = if key = other then some a else m[other]? := by
  simp [Std.ExtTreeMap.getElem?_insert]

theorem mem_of_getElem?_foldl_insert {entries : List (String × α)} {m : StringMap α}
    {key : String} {a : α}
    (h : (entries.foldl (fun m e => m.insert e.1 e.2) m)[key]? = some a) :
    (key, a) ∈ entries ∨ m[key]? = some a := by
  induction entries generalizing m with
  | nil => exact .inr h
  | cons e entries ih =>
    rcases ih h with hmem | hm
    · exact .inl (List.mem_cons_of_mem _ hmem)
    · rw [getElem?_insert] at hm
      split at hm
      · subst key
        cases hm
        exact .inl List.mem_cons_self
      · exact .inr hm

theorem mem_of_getElem?_ofEntries {entries : List (String × α)} {key : String} {a : α}
    (h : (ofEntries entries)[key]? = some a) : (key, a) ∈ entries := by
  rcases mem_of_getElem?_foldl_insert h with hmem | hnone
  · exact hmem
  · simp at hnone

theorem foldl_insert_eq_insertMany (entries : List (String × α)) (m : StringMap α) :
    entries.foldl (fun m e => m.insert e.1 e.2) m = Std.ExtTreeMap.insertMany m entries := by
  induction entries generalizing m with
  | nil => rfl
  | cons e entries ih =>
    rw [List.foldl_cons, ih]
    exact Std.ExtTreeMap.insertMany_cons.symm

theorem ofEntries_toList (m : StringMap α) : ofEntries m.toList = m := by
  apply Std.ExtTreeMap.ext_getElem?
  intro key
  apply Option.ext
  intro a
  constructor
  · intro h
    exact Std.ExtTreeMap.mem_toList_iff_getElem?_eq_some.1 (mem_of_getElem?_ofEntries h)
  · intro h
    rw [ofEntries, foldl_insert_eq_insertMany]
    exact Std.ExtTreeMap.getElem?_insertMany_list_of_mem Std.ReflCmp.compare_self
      Std.ExtTreeMap.distinct_keys_toList (Std.ExtTreeMap.mem_toList_iff_getElem?_eq_some.2 h)

theorem map_insert {β : Type} (f : String → α → β) (m : StringMap α) (key : String) (a : α) :
    (m.insert key a).map f = Std.ExtTreeMap.insert (m.map f) key (f key a) := by
  apply Std.ExtTreeMap.ext_getElem?
  intro other
  rw [Std.ExtTreeMap.getElem?_map, getElem?_insert, getElem?_insert, Std.ExtTreeMap.getElem?_map]
  split
  · subst key
    rfl
  · rfl

end StringMap

end RoomReader
