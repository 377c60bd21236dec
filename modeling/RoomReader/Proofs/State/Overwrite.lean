import RoomReader.Proofs.State.Fold

namespace RoomReader

/-!
# Where an event writes

The type and the state key of an event tell where it writes. So events that differ in type or state
key do not meet, and their order does not matter. An event after which one of the same type and
state key presents all that it presented might as well not have been.
-/

/-- The names of those fields that have a value. -/
def presentKeys (fields : List (String × Option String)) : List String :=
  (fields.filter (·.2.isSome)).map (·.1)

theorem mem_presentKeys {fields : List (String × Option String)} {key : String} :
    key ∈ presentKeys fields ↔ ∃ a, (key, some a) ∈ fields := by
  constructor
  · intro h
    obtain ⟨⟨_, value⟩, hmem, rfl⟩ := List.mem_map.1 h
    obtain ⟨hfield, hsome⟩ := List.mem_filter.1 hmem
    obtain ⟨a, rfl⟩ := Option.isSome_iff_exists.1 hsome
    exact ⟨a, hfield⟩
  · rintro ⟨a, h⟩
    exact List.mem_map.2 ⟨_, List.mem_filter.2 ⟨h, rfl⟩, rfl⟩

def MemberContent.presented (c : MemberContent) : List String :=
  presentKeys [("membership", c.membership), ("displayname", c.displayName),
    ("avatar_url", c.avatarUrl)]

/-- The keys that a content presents, where a list of aliases counts unless it is empty. A power
level table replaces the one before as a whole. -/
def EventContent.presented : EventContent → List String
  | create c => presentKeys [("creator", c.creator), ("room_version", c.roomVersion)]
  | name c => presentKeys [("name", c.name)]
  | topic c => presentKeys [("topic", c.topic)]
  | avatar c => presentKeys [("url", c.url)]
  | canonicalAlias c => presentKeys [("alias", c.roomAlias)]
  | aliases c => if c.aliases = [] then [] else ["aliases"]
  | member c => c.presented
  | powerLevels _ => []
  | redaction _ => []
  | other _ _ => []

namespace TextField

def eventType : TextField → String
  | creator => EventType.create
  | roomVersion => EventType.create
  | name => EventType.name
  | topic => EventType.topic
  | canonicalAlias => EventType.canonicalAlias
  | avatarUrl => EventType.avatar

def key : TextField → String
  | creator => "creator"
  | roomVersion => "room_version"
  | name => "name"
  | topic => "topic"
  | canonicalAlias => "alias"
  | avatarUrl => "url"

end TextField

namespace EventType

/-- The types of which a room has one event, under the empty state key. -/
def single : List String := [create, name, topic, avatar, canonicalAlias, powerLevels]

/-- The types with a content of their own. -/
def typed : List String := aliases :: member :: single

end EventType

namespace Event

/-- Events of one type and state key replace one another. -/
def slot (e : Event) : String × Option String := (e.eventType, e.stateKey)

def isState (e : Event) : Bool := e.stateKey.isSome

/-- A state event whose content fits its type, with the state key that its type asks for. -/
structure Settled (e : Event) : Prop where
  isState : e.isState
  fits : ∀ eventType v, e.content = .other eventType v → eventType ∉ EventType.typed
  single : e.eventType ∈ EventType.single → e.stateKey = some ""

section

variable {e e' : Event}

theorem Settled.exists_key (h : e.Settled) : ∃ key, e.stateKey = some key :=
  Option.isSome_iff_exists.1 h.isState

/-! ## What an event writes tells its type and state key -/

theorem key_of_text? {field : TextField} {a : String} (h : e.text? field = some a) :
    e.eventType = field.eventType ∧ field.key ∈ e.content.presented := by
  unfold text? at h
  split at h <;> first
    | cases h
    | (rename_i hcontent
       rw [eventType, hcontent]
       exact ⟨rfl, by simp [EventContent.presented, mem_presentKeys, TextField.key, h]⟩)

theorem eventType_of_levels? {levels : PowerLevels} (h : e.levels? = some levels) :
    e.eventType = EventType.powerLevels := by
  unfold levels? at h
  split at h
  · rename_i hcontent
    rw [eventType, hcontent]
    rfl
  · cases h

theorem slot_of_aliasesOf? {server : String} {names : List String}
    (h : e.aliasesOf? server = some names) :
    e.slot = (EventType.aliases, some server) ∧ "aliases" ∈ e.content.presented := by
  unfold aliasesOf? at h
  split at h
  · rename_i hstate hcontent
    split at h
    · rename_i hnames
      obtain ⟨rfl, hne⟩ := hnames
      rw [slot, eventType, hcontent, hstate]
      exact ⟨rfl, by simp [EventContent.presented, hne]⟩
    · cases h
  · cases h

theorem slot_of_contentsOf {user : String} {c : MemberContent} (h : c ∈ e.contentsOf user false) :
    e.slot = (EventType.member, some user) ∧ e.content = .member c := by
  unfold contentsOf at h
  split at h
  · rename_i hstate hcontent
    split at h
    · rename_i huser
      subst huser
      cases List.mem_singleton.1 h
      rw [slot, eventType, hcontent, hstate]
      exact ⟨rfl, rfl⟩
    · cases h
  · cases h

theorem contentsOf_eq_nil_or_singleton (e : Event) (user : String) :
    e.contentsOf user false = [] ∨ ∃ c, e.contentsOf user false = [c] := by
  unfold contentsOf
  split
  · split
    · exact .inr ⟨_, rfl⟩
    · exact .inl rfl
  · exact .inl rfl

theorem Settled.slot_of_single (he : e.Settled) {eventType : String}
    (htype : e.eventType = eventType) (hsingle : eventType ∈ EventType.single) :
    e.slot = (eventType, some "") := by
  rw [← htype] at hsingle
  rw [slot, he.single hsingle, htype]

theorem Settled.slot_of_text? (he : e.Settled) {field : TextField} {a : String}
    (h : e.text? field = some a) : e.slot = (field.eventType, some "") :=
  he.slot_of_single (key_of_text? h).1 (by cases field <;> decide)

theorem Settled.slot_of_levels? (he : e.Settled) {levels : PowerLevels}
    (h : e.levels? = some levels) : e.slot = (EventType.powerLevels, some "") :=
  he.slot_of_single (eventType_of_levels? h) (by decide)

/-- Where all that write have one type and state key, two events that differ in these do not both
write. -/
theorem eq_none_or_of_slot_ne {α : Type} {f : Event → Option α} {place : String × Option String}
    (hplace : ∀ e a, e.Settled → f e = some a → e.slot = place) (he : e.Settled)
    (he' : e'.Settled) (hne : e.slot ≠ e'.slot) : f e = none ∨ f e' = none := by
  by_contra! hboth
  obtain ⟨a, ha⟩ := Option.ne_none_iff_exists'.1 hboth.1
  obtain ⟨a', ha'⟩ := Option.ne_none_iff_exists'.1 hboth.2
  exact hne ((hplace e a he ha).trans (hplace e' a' he' ha').symm)

/-! ## The type and state key of an event tell what it writes -/

theorem Settled.content_ne_other (he : e.Settled) (htyped : e.eventType ∈ EventType.typed)
    (eventType : String) (v : Json) : e.content ≠ .other eventType v := by
  intro hcontent
  refine he.fits eventType v hcontent ?_
  rwa [Event.eventType, hcontent] at htyped

theorem Settled.powerLevels_of_eventType (he : e.Settled)
    (htype : e.eventType = EventType.powerLevels) : ∃ levels, e.content = .powerLevels levels := by
  have hother := he.content_ne_other (by rw [htype]; decide)
  rw [eventType] at htype
  cases hcontent : e.content with
  | powerLevels levels => exact ⟨levels, rfl⟩
  | other eventType v => exact absurd hcontent (hother eventType v)
  | _ =>
      rw [hcontent] at htype
      refine absurd htype ?_
      simp only [EventContent.eventType]
      decide

theorem exists_aliases_of_key (hkey : "aliases" ∈ e.content.presented) :
    ∃ c, e.content = .aliases c ∧ c.aliases ≠ [] := by
  cases hcontent : e.content with
  | aliases c =>
      rw [hcontent] at hkey
      refine ⟨c, rfl, ?_⟩
      intro hnil
      simp [EventContent.presented, hnil] at hkey
  | _ =>
      rw [hcontent] at hkey
      simp [EventContent.presented, MemberContent.presented, mem_presentKeys] at hkey

theorem Settled.member_of_eventType (he : e.Settled)
    (htype : e.eventType = EventType.member) : ∃ c, e.content = .member c := by
  have hother := he.content_ne_other (by rw [htype]; decide)
  rw [eventType] at htype
  cases hcontent : e.content with
  | member c => exact ⟨c, rfl⟩
  | other eventType v => exact absurd hcontent (hother eventType v)
  | _ =>
      rw [hcontent] at htype
      refine absurd htype ?_
      simp only [EventContent.eventType]
      decide

theorem Settled.text?_of_key (he : e.Settled) {field : TextField}
    (htype : e.eventType = field.eventType) (hkey : field.key ∈ e.content.presented) :
    e.text? field ≠ none := by
  have hother := he.content_ne_other (by rw [htype]; cases field <;> decide)
  obtain ⟨key, hstate⟩ := he.exists_key
  rw [eventType] at htype
  unfold text?
  rw [hstate]
  cases hcontent : e.content with
  | other eventType v => exact absurd hcontent (hother eventType v)
  | _ =>
      rw [hcontent] at htype hkey
      cases field <;>
        simp_all [EventContent.eventType, TextField.eventType, EventContent.presented,
          mem_presentKeys, TextField.key, EventType.create, EventType.name, EventType.topic,
          EventType.avatar, EventType.canonicalAlias, EventType.member, Option.ne_none_iff_exists]

/-! ## Events after which an earlier one shows nowhere -/

/-- A later event of the same type and state key presents all that an earlier one did. -/
structure Supersedes (e' e : Event) : Prop where
  slot : e.slot = e'.slot
  presents : e.content.presented ⊆ e'.content.presented

theorem Supersedes.text? (h : e'.Supersedes e) (he' : e'.Settled) {field : TextField}
    (hne : e.text? field ≠ none) : e'.text? field ≠ none := by
  obtain ⟨a, ha⟩ := Option.ne_none_iff_exists'.1 hne
  obtain ⟨htype, hkey⟩ := key_of_text? ha
  exact he'.text?_of_key ((congrArg Prod.fst h.slot).symm.trans htype) (h.presents hkey)

theorem Supersedes.levels? (h : e'.Supersedes e) (he' : e'.Settled) (hne : e.levels? ≠ none) :
    e'.levels? ≠ none := by
  obtain ⟨levels, hlevels⟩ := Option.ne_none_iff_exists'.1 hne
  have htype := (congrArg Prod.fst h.slot).symm.trans (eventType_of_levels? hlevels)
  obtain ⟨levels', hcontent⟩ := he'.powerLevels_of_eventType htype
  obtain ⟨key, hstate⟩ := he'.exists_key
  simp [Event.levels?, hstate, hcontent]

theorem Supersedes.aliasesOf? (h : e'.Supersedes e) {server : String}
    (hne : e.aliasesOf? server ≠ none) : e'.aliasesOf? server ≠ none := by
  obtain ⟨names, hnames⟩ := Option.ne_none_iff_exists'.1 hne
  obtain ⟨hslot, hkey⟩ := slot_of_aliasesOf? hnames
  obtain ⟨-, hstate⟩ := Prod.mk.inj (h.slot.symm.trans hslot)
  obtain ⟨c, hcontent, hnonempty⟩ := exists_aliases_of_key (h.presents hkey)
  simp [Event.aliasesOf?, hstate, hcontent, hnonempty]

theorem Supersedes.contentsOf (h : e'.Supersedes e) (he' : e'.Settled) {user : String}
    {c : MemberContent} (hc : e.contentsOf user false = [c]) :
    ∃ c', e'.contentsOf user false = [c'] ∧ c.presented ⊆ c'.presented := by
  obtain ⟨hslot, hcontent⟩ := slot_of_contentsOf (hc ▸ List.mem_singleton_self c)
  obtain ⟨htype, hstate⟩ := Prod.mk.inj (h.slot.symm.trans hslot)
  obtain ⟨c', hcontent'⟩ := he'.member_of_eventType htype
  have hpresents := h.presents
  rw [hcontent, hcontent'] at hpresents
  refine ⟨c', ?_, hpresents⟩
  unfold Event.contentsOf
  rw [hstate, hcontent']
  exact if_pos rfl

end

end Event

/-! ## Two writes to one place -/

section

variable {α : Type} {a b : Option α}

theorem or_or_of_ne_none (h : a ≠ none → b ≠ none) (x : Option α) : b.or (a.or x) = b.or x := by
  cases b with
  | some b => rfl
  | none =>
      cases a with
      | none => rfl
      | some a => exact absurd rfl (h nofun)

theorem or_left_comm_of_none (h : a = none ∨ b = none) (x : Option α) :
    b.or (a.or x) = a.or (b.or x) := by
  rcases h with rfl | rfl <;> simp

end

theorem Member.merge_merge_of_presented (m : Member) {c c' : MemberContent}
    (h : c.presented ⊆ c'.presented) : (m.merge c).merge c' = m.merge c' := by
  have hmembership : c.membership ≠ none → c'.membership ≠ none := by
    simpa [MemberContent.presented, mem_presentKeys, Option.ne_none_iff_exists] using
      @h "membership"
  have hdisplayName : c.displayName ≠ none → c'.displayName ≠ none := by
    simpa [MemberContent.presented, mem_presentKeys, Option.ne_none_iff_exists] using
      @h "displayname"
  have havatarUrl : c.avatarUrl ≠ none → c'.avatarUrl ≠ none := by
    simpa [MemberContent.presented, mem_presentKeys, Option.ne_none_iff_exists] using
      @h "avatar_url"
  have hmember := congrArg (·.getD m.membership) (or_or_of_ne_none hmembership none)
  have hname := or_or_of_ne_none hdisplayName m.displayName
  have havatar := or_or_of_ne_none havatarUrl m.avatarUrl
  simp only [merge, Option.orElse_eq_orElse, Option.orElse_eq_or, hname, havatar]
  cases hc' : c'.membership with
  | some b => rfl
  | none =>
      cases hc : c.membership with
      | none => rfl
      | some a => exact absurd hc' (hmembership (by rw [hc]; nofun))

namespace RoomState

variable {s : RoomState} {e e' : Event}

theorem applyEvent_of_supersedes (h : e'.Supersedes e) (he' : e'.Settled) :
    (s.applyEvent e false).applyEvent e' false = s.applyEvent e' false := by
  apply eq_of_parts
  · intro field
    rw [text_applyEvent, text_applyEvent, text_applyEvent]
    exact or_or_of_ne_none (h.text? he') _
  · apply Option.some.inj
    rw [powerLevels_applyEvent, powerLevels_applyEvent, powerLevels_applyEvent]
    exact or_or_of_ne_none (h.levels? he') _
  · intro user
    rw [getElem?_memberMap_applyEvent, getElem?_memberMap_applyEvent,
      getElem?_memberMap_applyEvent]
    -- A member is merged and not replaced: this is where the presented keys are needed.
    rcases e.contentsOf_eq_nil_or_singleton user with hnil | ⟨c, hc⟩
    · rw [hnil, List.foldl_nil]
    · obtain ⟨c', hc', hpresents⟩ := h.contentsOf he' hc
      rw [hc, hc']
      exact congrArg some (Member.merge_merge_of_presented _ hpresents)
  · intro server
    rw [getElem?_aliasMap_applyEvent, getElem?_aliasMap_applyEvent, getElem?_aliasMap_applyEvent]
    exact or_or_of_ne_none h.aliasesOf? _
  · rw [roster_applyEvent, roster_applyEvent, roster_applyEvent]

/-- Events of different types or state keys write in different places. -/
theorem applyEvent_comm (he : e.Settled) (he' : e'.Settled) (hne : e.slot ≠ e'.slot) :
    (s.applyEvent e false).applyEvent e' false = (s.applyEvent e' false).applyEvent e false := by
  apply eq_of_parts
  · intro field
    rw [text_applyEvent, text_applyEvent, text_applyEvent, text_applyEvent]
    exact or_left_comm_of_none
      (Event.eq_none_or_of_slot_ne (fun _ _ h ha => h.slot_of_text? ha) he he' hne) _
  · apply Option.some.inj
    rw [powerLevels_applyEvent, powerLevels_applyEvent, powerLevels_applyEvent,
      powerLevels_applyEvent]
    exact or_left_comm_of_none
      (Event.eq_none_or_of_slot_ne (fun _ _ h ha => h.slot_of_levels? ha) he he' hne) _
  · intro user
    rw [getElem?_memberMap_applyEvent, getElem?_memberMap_applyEvent,
      getElem?_memberMap_applyEvent, getElem?_memberMap_applyEvent]
    have hnone := Event.eq_none_or_of_slot_ne (f := fun e => (e.contentsOf user false).head?)
      (fun _ _ _ hc => (Event.slot_of_contentsOf (List.mem_of_mem_head? hc)).1) he he' hne
    rcases hnone with hnil | hnil <;>
      rw [List.head?_eq_none_iff.1 hnil, List.foldl_nil, List.foldl_nil]
  · intro server
    rw [getElem?_aliasMap_applyEvent, getElem?_aliasMap_applyEvent, getElem?_aliasMap_applyEvent,
      getElem?_aliasMap_applyEvent]
    exact or_left_comm_of_none
      (Event.eq_none_or_of_slot_ne (fun _ _ _ ha => (Event.slot_of_aliasesOf? ha).1) he he' hne) _
  · rw [roster_applyEvent, roster_applyEvent, roster_applyEvent, roster_applyEvent]

end RoomState

end RoomReader
