import Mathlib
import RoomReader.Proofs.Event.Codec
import RoomReader.Proofs.State.LastWriter

namespace RoomReader

/-!
# Payloads and the types they are read for

Each of the eight types has known fields, and each field values of one kind. A payload is read as
typed content if it is an object whose known fields hold values of their kinds, and also if it is
an array of such values for the first of the fields. Any other payload is kept as it is, and an
event with it does not touch the state of a room.
-/

namespace Payload

/-- An integer of 64 bits with a sign. -/
def IsLevel (v : Json) : Prop := ∃ n : Int, v = .int n ∧ -2 ^ 63 ≤ n ∧ n < 2 ^ 63

inductive Kind where
  | text
  | texts
  | level
  | levels

def Kind.Fits : Kind → Json → Prop
  | text, v => v = .null ∨ ∃ s, v = .str s
  | texts, v => ∃ items, v = .arr items ∧ ∀ item ∈ items, ∃ s, item = .str s
  | level, v => IsLevel v
  | levels, v => ∃ entries, v = .obj entries ∧ ∀ entry ∈ entries, IsLevel entry.2

/-- A known field: its name and the kind of its values. -/
abbrev Field := String × Kind

/-- The known fields of each type, in their order. -/
def documented : List (String × List Field) :=
  [(EventType.create, [("creator", .text), ("room_version", .text)]),
    (EventType.name, [("name", .text)]),
    (EventType.topic, [("topic", .text)]),
    (EventType.avatar, [("url", .text)]),
    (EventType.canonicalAlias, [("alias", .text)]),
    (EventType.aliases, [("aliases", .texts)]),
    (EventType.member, [("membership", .text), ("displayname", .text), ("avatar_url", .text)]),
    (EventType.powerLevels, [("ban", .level), ("kick", .level), ("redact", .level),
      ("invite", .level), ("events_default", .level), ("state_default", .level),
      ("users_default", .level), ("events", .levels), ("users", .levels)])]

/-- An object in which every known field that is there holds a value of its kind. -/
def FitsObject (known : List Field) (v : Json) : Prop :=
  ∃ fields, v = .obj fields ∧ ∀ field ∈ known, ∀ w ∈ fields.lookup field.1, field.2.Fits w

/-- An array of values for the first of the known fields, each of its field's kind. -/
def FitsArray (known : List Field) (v : Json) : Prop :=
  ∃ items, v = .arr items ∧ items.length ≤ known.length ∧
    ∀ entry ∈ known.zip items, entry.1.2.Fits entry.2

/-! ## Values of each kind -/

section Values

open Json

variable {o : Option Json} {v : Json}

theorem isSome_optional_text? :
    (Json.optional text? o).isSome ↔ ∀ w ∈ o, Kind.text.Fits w := by
  rcases o with - | v
  · simp
  · cases v <;> simp [Json.optional, text?, Kind.Fits]

theorem isSome_text? : (text? v).isSome ↔ ∃ s, v = .str s := by
  cases v <;> simp [text?]

theorem isSome_mapM {α β : Type} {f : α → Option β} {xs : List α} :
    (xs.mapM f).isSome ↔ ∀ x ∈ xs, (f x).isSome := by
  induction xs with
  | nil => simp
  | cons x xs ih =>
    cases hx : f x with
    | none => simp [hx]
    | some b => simpa [hx, Option.isSome_bind] using ih

theorem isSome_list?_text? : (list? text? v).isSome ↔ Kind.texts.Fits v := by
  cases v with
  | arr items => simp [list?, isSome_mapM, isSome_text?, Kind.Fits]
  | _ => simp [list?, Kind.Fits]

theorem isSome_int64? : (int64? v).isSome ↔ IsLevel v := by
  have hmin : Int64.minValue.toInt = -2 ^ 63 := rfl
  have hmax : Int64.maxValue.toInt = 2 ^ 63 - 1 := rfl
  cases v with
  | int n => simp [int64?, IsLevel, hmin, hmax]; omega
  | _ => simp [int64?, IsLevel]

theorem isSome_entries?_int64? {entries : List (String × Json)} :
    (entries? int64? entries).isSome ↔ ∀ entry ∈ entries, IsLevel entry.2 := by
  induction entries with
  | nil => simp [entries?]
  | cons entry entries ih =>
    rw [List.forall_mem_cons, ← isSome_int64?, ← ih, entries?]
    cases int64? entry.2 with
    | none => simp
    | some n => cases entries? int64? entries <;> simp

theorem isSome_map?_int64? : (map? int64? v).isSome ↔ Kind.levels.Fits v := by
  cases v with
  | obj entries => simp [map?, isSome_entries?_int64?, Kind.Fits]
  | _ => simp [map?, Kind.Fits]

theorem isSome_withDefault {α : Type} {d : α} {read : Json → Option α} {kind : Kind}
    (hread : ∀ v, (read v).isSome ↔ kind.Fits v) :
    (withDefault d read o).isSome ↔ ∀ w ∈ o, kind.Fits w := by
  rcases o with - | v
  · simp [withDefault]
  · simp [withDefault, hread]

theorem isSome_texts : (withDefault [] (list? text?) o).isSome ↔ ∀ w ∈ o, Kind.texts.Fits w :=
  isSome_withDefault fun _ => isSome_list?_text?

theorem isSome_level : (withDefault 0 int64? o).isSome ↔ ∀ w ∈ o, Kind.level.Fits w :=
  isSome_withDefault fun _ => isSome_int64?

theorem isSome_levels : (withDefault ∅ (map? int64?) o).isSome ↔ ∀ w ∈ o, Kind.levels.Fits w :=
  isSome_withDefault fun _ => isSome_map?_int64?

end Values

/-! ## Records of known fields -/

section Records

open Json

variable {known : List Field} {v : Json} {items : List Json}

def FitsFields (known : List Field) (f : String → Option Json) : Prop :=
  ∀ field ∈ known, ∀ w ∈ f field.1, field.2.Fits w

theorem fitsFields_zip (hnodup : (known.map (·.1)).Nodup) :
    FitsFields known (lookup? ((known.map (·.1)).zip items)) ↔
      ∀ entry ∈ known.zip items, entry.1.2.Fits entry.2 := by
  have hlookup {place : Nat} {field : Field} (hfield : known[place]? = some field) :
      lookup? ((known.map (·.1)).zip items) field.1 = items[place]? := by
    refine lookup?_zip hnodup ?_
    rw [List.getElem?_map, hfield, Option.map_some]
  constructor
  · rintro hfits ⟨field, item⟩ hentry
    obtain ⟨place, hplace⟩ := List.mem_iff_getElem?.1 hentry
    obtain ⟨hfield, hitem⟩ := List.getElem?_zip_eq_some.1 hplace
    exact hfits field (List.mem_of_getElem? hfield) item ((hlookup hfield).trans hitem)
  · intro hfits field hmem item hitem
    obtain ⟨place, hfield⟩ := List.mem_iff_getElem?.1 hmem
    rw [Option.mem_def, hlookup hfield] at hitem
    exact hfits (field, item) (List.mem_of_getElem? (List.getElem?_zip_eq_some.2 ⟨hfield, hitem⟩))

/-- A record of fitting values is an object of them or an array of them. -/
theorem exists_record?_iff (hnodup : (known.map (·.1)).Nodup) :
    (∃ f, v.record? (known.map (·.1)) = some f ∧ FitsFields known f) ↔
      FitsObject known v ∨ FitsArray known v := by
  cases v with
  | obj fields => simp [record?, FitsObject, FitsArray, FitsFields, lookup?]
  | arr items =>
    simp only [record?, List.length_map, Option.ite_none_right_eq_some, Option.some.injEq,
      FitsObject, FitsArray, reduceCtorEq, false_and, exists_false, false_or, Json.arr.injEq,
      exists_eq_left']
    rw [← fitsFields_zip hnodup]
    constructor
    · rintro ⟨f, ⟨hlength, rfl⟩, hfits⟩
      exact ⟨hlength, hfits⟩
    · rintro ⟨hlength, hfits⟩
      exact ⟨_, ⟨hlength, rfl⟩, hfits⟩
  | _ => simp [record?, FitsObject, FitsArray]

/-- A content is read from just the records of fitting values. -/
def Accepts {α : Type} (known : List Field) (read : Json → Option α) : Prop :=
  ∀ v, (read v).isSome ↔ ∃ f, v.record? (known.map (·.1)) = some f ∧ FitsFields known f

theorem accepts_of_body {α : Type} {read : Json → Option α}
    {body : (String → Option Json) → Option α}
    (hread : ∀ v, read v = (v.record? (known.map (·.1))).bind body)
    (hbody : ∀ f, (body f).isSome ↔ FitsFields known f) : Accepts known read := by
  intro v
  rw [hread]
  cases v.record? (known.map (·.1)) with
  | none => simp
  | some f => simp [hbody]

/-- Fields are read one after another, whatever stands in those before. -/
theorem any_const {α : Type} (o : Option α) (b : Bool) :
    (o.any fun _ => b) = (o.isSome && b) := by
  cases o <;> simp

end Records

/-! ## The eight types -/

theorem accepts_create :
    Accepts [("creator", .text), ("room_version", .text)] CreateContent.ofJson? := by
  refine accepts_of_body (fun _ => rfl) fun f => ?_
  simp [Option.isSome_bind, any_const, isSome_optional_text?, FitsFields]

theorem accepts_name : Accepts [("name", .text)] NameContent.ofJson? := by
  refine accepts_of_body (fun _ => rfl) fun f => ?_
  simp [Option.isSome_bind, isSome_optional_text?, FitsFields]

theorem accepts_topic : Accepts [("topic", .text)] TopicContent.ofJson? := by
  refine accepts_of_body (fun _ => rfl) fun f => ?_
  simp [Option.isSome_bind, isSome_optional_text?, FitsFields]

theorem accepts_avatar : Accepts [("url", .text)] AvatarContent.ofJson? := by
  refine accepts_of_body (fun _ => rfl) fun f => ?_
  simp [Option.isSome_bind, isSome_optional_text?, FitsFields]

theorem accepts_canonicalAlias : Accepts [("alias", .text)] CanonicalAliasContent.ofJson? := by
  refine accepts_of_body (fun _ => rfl) fun f => ?_
  simp [Option.isSome_bind, isSome_optional_text?, FitsFields]

theorem accepts_aliases : Accepts [("aliases", .texts)] AliasesContent.ofJson? := by
  refine accepts_of_body (fun _ => rfl) fun f => ?_
  simp [Option.isSome_bind, isSome_texts, FitsFields]

theorem accepts_member :
    Accepts [("membership", .text), ("displayname", .text), ("avatar_url", .text)]
      MemberContent.ofJson? := by
  refine accepts_of_body (fun _ => rfl) fun f => ?_
  simp [Option.isSome_bind, any_const, isSome_optional_text?, FitsFields]

theorem accepts_powerLevels :
    Accepts [("ban", .level), ("kick", .level), ("redact", .level), ("invite", .level),
      ("events_default", .level), ("state_default", .level), ("users_default", .level),
      ("events", .levels), ("users", .levels)] PowerLevels.ofJson? := by
  refine accepts_of_body (fun _ => rfl) fun f => ?_
  simp [Option.isSome_bind, any_const, isSome_level, isSome_levels, FitsFields]

end Payload

namespace EventContent

open Payload

variable {eventType : String} {known : List Field} {v : Json} {c : EventContent}

/-- A content of one of the eight types. -/
def IsTyped : EventContent → Prop
  | redaction _ => False
  | other _ _ => False
  | _ => True

theorem typed?_of_documented (h : (eventType, known) ∈ documented) :
    (known.map (·.1)).Nodup ∧ eventType ≠ EventType.redaction ∧
      Accepts known (typed? eventType) := by
  have hmap {α : Type} {read : Json → Option α} {content : α → EventContent}
      (hread : Accepts known read) (htyped : ∀ v, typed? eventType v = (read v).map content) :
      Accepts known (typed? eventType) := by
    intro v
    rw [htyped, Option.isSome_map]
    exact hread v
  simp only [documented, List.mem_cons, Prod.mk.injEq, List.not_mem_nil, or_false] at h
  rcases h with ⟨rfl, rfl⟩ | ⟨rfl, rfl⟩ | ⟨rfl, rfl⟩ | ⟨rfl, rfl⟩ | ⟨rfl, rfl⟩ | ⟨rfl, rfl⟩ |
    ⟨rfl, rfl⟩ | ⟨rfl, rfl⟩
  · exact ⟨by decide, by decide, hmap accepts_create fun _ => rfl⟩
  · exact ⟨by decide, by decide, hmap accepts_name fun _ => rfl⟩
  · exact ⟨by decide, by decide, hmap accepts_topic fun _ => rfl⟩
  · exact ⟨by decide, by decide, hmap accepts_avatar fun _ => rfl⟩
  · exact ⟨by decide, by decide, hmap accepts_canonicalAlias fun _ => rfl⟩
  · exact ⟨by decide, by decide, hmap accepts_aliases fun _ => rfl⟩
  · exact ⟨by decide, by decide, hmap accepts_member fun _ => rfl⟩
  · exact ⟨by decide, by decide, hmap accepts_powerLevels fun _ => rfl⟩

theorem isTyped_of_typed? (h : typed? eventType v = some c) : c.IsTyped := by
  unfold typed? at h
  split_ifs at h <;> obtain ⟨content, -, rfl⟩ := Option.map_eq_some_iff.1 h <;> trivial

theorem isTyped_ofJson_iff (h : (eventType, known) ∈ documented) :
    (ofJson eventType v).IsTyped ↔ FitsObject known v ∨ FitsArray known v := by
  obtain ⟨hnodup, hredaction, haccepts⟩ := typed?_of_documented h
  rw [← exists_record?_iff hnodup, ← haccepts v, ofJson, if_neg hredaction]
  cases htyped : typed? eventType v with
  | none => simp [IsTyped]
  | some c => simp [isTyped_of_typed? htyped]

theorem ofJson_eq_other (h : (eventType, known) ∈ documented)
    (hv : ¬ (ofJson eventType v).IsTyped) : ofJson eventType v = other eventType v := by
  rcases ofJson_cases eventType v with ⟨hredaction, -⟩ | ⟨-, ⟨-, hother⟩ | ⟨c, htyped, hc⟩⟩
  · exact absurd hredaction (typed?_of_documented h).2.1
  · exact hother
  · rw [hc] at hv
    exact absurd (isTyped_of_typed? htyped) hv

end EventContent

namespace Event

open Payload

variable {v : Json} {e : Event}

/-- The payload of an event, `null` where there is none. -/
def payload (v : Json) : Json := (v.at? 4 "content").getD .null

theorem isIdle_of_not_isTyped (h : ¬ e.content.IsTyped) : e.isIdle = true := by
  unfold isIdle
  cases e.stateKey with
  | none => rfl
  | some key =>
    cases hcontent : e.content with
    | redaction | other => rfl
    | _ =>
      rw [hcontent] at h
      exact absurd trivial h

end Event

theorem RoomState.apply_idle {e : Event} (h : e.isIdle = true) (s : RoomState)
    (before after : List Event) (usePrev : Bool) :
    s.apply (before ++ e :: after) usePrev = s.apply (before ++ after) usePrev := by
  rw [apply_append, apply_append]
  change ((s.apply before usePrev).applyEvent e usePrev).apply after usePrev = _
  rw [applyEvent_of_isIdle usePrev _ h]

open Payload in
/-- A payload of a documented type is read as typed content exactly if it fits as an object or as an
array, so the objects that fit are all that is typed for every value but the arrays that fit. What
fits in neither way is kept as it is, and wherever its event stands among others it does not touch
the state of a room. -/
theorem EventContent.typed_iff_fits {eventType : String} {known : List Field}
    (h : (eventType, known) ∈ documented) (v : Json) :
    (ofJson eventType v).eventType = eventType ∧
      ((ofJson eventType v).IsTyped ↔ FitsObject known v ∨ FitsArray known v) ∧
      (((ofJson eventType v).IsTyped ↔ FitsObject known v) ↔ ¬ FitsArray known v) ∧
      (¬ FitsObject known v → ¬ FitsArray known v → ofJson eventType v = other eventType v ∧
        ∀ value e, Event.ofJson? value = some e → e.eventType = eventType →
          Event.payload value = v → e.content = other eventType v ∧
            ∀ (s : RoomState) before after usePrev,
              s.apply (before ++ e :: after) usePrev = s.apply (before ++ after) usePrev) := by
  have htyped := isTyped_ofJson_iff (v := v) h
  refine ⟨eventType_ofJson eventType v, htyped, ?_, fun hobject harray => ?_⟩
  · rw [htyped]
    constructor
    · rintro honly hfits
      -- No value is an array and an object.
      obtain ⟨fields, rfl, -⟩ := honly.1 (.inr hfits)
      obtain ⟨items, hitems, -⟩ := hfits
      cases hitems
    · intro hmisfit
      exact or_iff_left hmisfit
  · have hmisfit : ¬ (ofJson eventType v).IsTyped := fun hv => (htyped.1 hv).elim hobject harray
    have hother := ofJson_eq_other h hmisfit
    refine ⟨hother, ?_⟩
    rintro value e hread rfl rfl
    have hcontent : e.content = .ofJson e.eventType (Event.payload value) :=
      (Event.readFrom hread).content
    rw [← hcontent] at hother hmisfit
    refine ⟨hother, ?_⟩
    exact RoomState.apply_idle (Event.isIdle_of_not_isTyped hmisfit)

/-! A power level that is one too large for 64 bits, and a name in an array. -/

namespace SmallPayload

open Payload

def event (eventType : String) (payload : Json) : Json :=
  .obj [("event_id", .str "$e:hs.one"), ("type", .str eventType), ("state_key", .str ""),
    ("content", payload)]

def tooLarge : Json := .obj [("ban", .int (2 ^ 63))]

def levels : Event where
  id := "$e:hs.one"
  sender := ""
  stateKey := some ""
  content := .other EventType.powerLevels tooLarge
  prevContent := none
  originServerTs := 0

theorem not_fitsObject_tooLarge {rest : List Field} :
    ¬ FitsObject (("ban", .level) :: rest) tooLarge := by
  rintro ⟨fields, hfields, hfits⟩
  cases hfields
  obtain ⟨n, hn, -, hlt⟩ := hfits _ List.mem_cons_self _ rfl
  cases hn
  exact absurd hlt (by decide)

theorem tooLarge_is_kept : Event.ofJson? (event EventType.powerLevels tooLarge) = some levels ∧
    ∀ s : RoomState, s.apply [levels] true = s := by
  have hread : Event.ofJson? (event EventType.powerLevels tooLarge) = some levels := rfl
  have hdocumented := List.mem_of_getElem? (l := documented) (i := 7) rfl
  have harray {known : List Field} : ¬ FitsArray known tooLarge := by
    rintro ⟨items, hitems, -⟩
    cases hitems
  obtain ⟨-, -, -, hkept⟩ := EventContent.typed_iff_fits hdocumented tooLarge
  obtain ⟨-, hstate⟩ := hkept not_fitsObject_tooLarge harray
  exact ⟨hread, fun s => (hstate _ _ hread rfl rfl).2 s [] [] true⟩

def inArray : Json := .arr [.str "x"]

def name : Event where
  id := "$e:hs.one"
  sender := ""
  stateKey := some ""
  content := .name { name := some "x" }
  prevContent := none
  originServerTs := 0

/-- An array is no object, and gives the room a name. -/
theorem inArray_names_room : (EventType.name, [("name", Kind.text)]) ∈ documented ∧
    ¬ FitsObject [("name", .text)] inArray ∧ (EventContent.ofJson EventType.name inArray).IsTyped ∧
    Event.ofJson? (event EventType.name inArray) = some name ∧
    ({} : RoomState).name = none ∧ (({} : RoomState).apply [name] false).name = some "x" := by
  refine ⟨.tail _ (.head _), ?_, trivial, rfl, rfl, rfl⟩
  rintro ⟨fields, hfields, -⟩
  cases hfields

end SmallPayload

end RoomReader
