import RoomReader.Json.Record

namespace RoomReader.Json

/-!
# Reading back what was written

A record gives each of its fields by name or by place. Every reader of a field undoes the writer
beside it, as long as the writer of an optional field does not write `null`.
-/

/-- The field of an object, or the item of an array, whatever it holds. -/
def at? (v : Json) (place : Nat) (name : String) : Option Json :=
  match v with
  | obj fields => fields.lookup name
  | arr items => items[place]?
  | _ => none

/-- `null` stands for no value. -/
def nonNull? : Json → Option Json
  | null => none
  | v => some v

theorem nonNull?_of_ne {v : Json} (hv : v ≠ null) : nonNull? v = some v := by
  cases v with
  | null => contradiction
  | _ => rfl

theorem nonNull?_of_mem {o : Option Json} {v : Json} (h : v ∈ o.bind nonNull?) :
    nonNull? v = some v := by
  obtain ⟨w, -, hw⟩ := Option.bind_eq_some_iff.1 h
  cases w with
  | null => cases hw
  | _ =>
    cases hw
    rfl

section Fields

variable {names : List String} {items : List Json} {fields rest : List (String × Json)}
  {name key : String} {v : Json}

theorem lookup?_zip {place : Nat} (hnodup : names.Nodup) (hname : names[place]? = some name) :
    lookup? (names.zip items) name = items[place]? := by
  induction names generalizing items place with
  | nil => simp at hname
  | cons first names ih =>
    cases items with
    | nil => simp [lookup?]
    | cons item items =>
      cases place with
      | zero =>
        obtain rfl : first = name := by simpa using hname
        simp [lookup?]
      | succ place =>
        have hname' : names[place]? = some name := by simpa using hname
        have hne : name ≠ first := by
          rintro rfl
          exact (List.nodup_cons.1 hnodup).1 (List.mem_of_getElem? hname')
        have htail : lookup? (names.zip items) name = items[place]? :=
          ih (List.nodup_cons.1 hnodup).2 hname'
        simpa [lookup?, List.lookup_cons, beq_eq_false_iff_ne.2 hne] using htail

/-- The fields of a record are those of the value it was found in. -/
theorem record?_at? {f : String → Option Json} (h : v.record? names = some f)
    (hnodup : names.Nodup) (place : Nat) ⦃name : String⦄ (hname : names[place]? = some name) :
    f name = v.at? place name := by
  cases v with
  | obj fields =>
    cases h
    rfl
  | arr items =>
    simp only [record?, Option.ite_none_right_eq_some] at h
    obtain ⟨-, hf⟩ := h
    cases hf
    exact lookup?_zip hnodup hname
  | _ => cases h

@[simp] theorem lookup?_nil : lookup? [] name = none := rfl

@[simp] theorem lookup?_cons :
    lookup? ((key, v) :: rest) name = if name = key then some v else lookup? rest name := by
  by_cases h : name = key
  · subst h
    simp [lookup?]
  · simp [lookup?, List.lookup_cons, h, beq_eq_false_iff_ne.2 h]

@[simp] theorem lookup?_append :
    lookup? (fields ++ rest) name = (lookup? fields name).or (lookup? rest name) :=
  List.lookup_append

@[simp] theorem lookup?_field? {α : Type} {f : α → Json} {o : Option α} :
    lookup? (field? key f o) name = if name = key then o.map f else none := by
  cases o <;> simp [field?]

end Fields

/-! ## What was read is what stood there -/

section Reading

variable {α : Type} {read : Json → Option α} {write : α → Json} {v : Json} {o : Option Json}

theorem text?_eq_some {s : String} (h : text? v = some s) : v = .str s := by
  cases v with
  | str s' =>
    cases h
    rfl
  | _ => cases h

theorem int64?_eq_some {n : Int64} (h : int64? v = some n) : v = ofInt64 n := by
  cases v with
  | int k =>
    simp only [int64?, Option.ite_none_right_eq_some, Option.some.injEq] at h
    obtain ⟨⟨hmin, hmax⟩, rfl⟩ := h
    rw [Int64.toInt_maxValue] at hmax
    rw [ofInt64, Int64.toInt_ofInt_of_le hmin (Int.lt_of_le_sub_one hmax)]
  | _ => cases h

theorem required_eq_some {a : α} (hread : ∀ v a, read v = some a → v = write a)
    (h : required read o = some a) : o = some (write a) := by
  cases o with
  | none => cases h
  | some v => rw [hread v a h]

theorem withDefault_eq_some {a d : α} (hread : ∀ v a, read v = some a → v = write a)
    (h : withDefault d read o = some a) : o.getD (write d) = write a := by
  cases o with
  | none =>
    cases h
    rfl
  | some v => exact hread v a h

@[simp] theorem optional_none : optional read none = some none := rfl

theorem optional_some (hv : v ≠ null) : optional read (some v) = (read v).map some := by
  cases v with
  | null => contradiction
  | _ => rfl

theorem optional_eq_some {a : Option α} (hread : ∀ v a, read v = some a → v = write a)
    (h : optional read o = some a) : o.bind nonNull? = a.map write := by
  cases o with
  | none =>
    cases h
    rfl
  | some v =>
    by_cases hv : v = null
    · subst hv
      cases h
      rfl
    · rw [optional_some hv] at h
      obtain ⟨b, hb, rfl⟩ := Option.map_eq_some_iff.1 h
      rw [Option.bind_some, nonNull?_of_ne hv, Option.map_some, hread v b hb]

theorem withDefault_some_eq (d : Json) (o : Option Json) :
    withDefault d some o = some (o.getD d) := by
  cases o <;> rfl

/-- A field that is read as it is holds every value but `null`. -/
theorem optional_some_eq (o : Option Json) : optional some o = some (o.bind nonNull?) := by
  rcases o with - | v
  · rfl
  · cases v <;> rfl

end Reading

/-! ## From a value to what is written -/

section Writing

variable {α : Type} {read : Json → Option α} {write : α → Json} {v : Json}

@[simp] theorem text?_str (s : String) : text? (.str s) = some s := rfl

@[simp] theorem int64?_ofInt64 (n : Int64) : int64? (ofInt64 n) = some n := by
  have hrange : Int64.minValue.toInt ≤ n.toInt ∧ n.toInt ≤ Int64.maxValue.toInt :=
    ⟨n.minValue_le_toInt, n.toInt_le⟩
  simp only [ofInt64, int64?, if_pos hrange, Int64.ofInt_toInt]

theorem list?_ofList (hread : ∀ a, read (write a) = some a) (xs : List α) :
    list? read (ofList write xs) = some xs := by
  simp only [ofList, list?]
  induction xs with
  | nil => rfl
  | cons a xs ih => simp [hread, ih]

theorem entries?_map (hread : ∀ a, read (write a) = some a) (entries : List (String × α)) :
    entries? read (entries.map fun e => (e.1, write e.2)) = some entries := by
  induction entries with
  | nil => rfl
  | cons e entries ih => simp [entries?, hread, ih]

theorem map?_entries (hread : ∀ a, read (write a) = some a) (m : StringMap α) :
    map? read (obj (m.toList.map fun e => (e.1, write e.2))) = some m := by
  simp only [map?, entries?_map hread, Option.map_some, StringMap.ofEntries_toList]

/-- An optional field is read back unless its value is written as `null`. -/
theorem optional_map {o : Option α} (h : ∀ a ∈ o, read (write a) = some a ∧ write a ≠ null) :
    optional read (o.map write) = some o := by
  cases o with
  | none => rfl
  | some a =>
    obtain ⟨hread, hnull⟩ := h a rfl
    rw [Option.map_some, optional_some hnull, hread]
    rfl

@[simp] theorem optional_text?_map (o : Option String) :
    optional text? (o.map str) = some o :=
  optional_map fun s _ => ⟨text?_str s, nofun⟩

end Writing

end RoomReader.Json
