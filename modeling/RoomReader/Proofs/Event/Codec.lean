import Mathlib.Tactic.SplitIfs
import RoomReader.Event.Codec
import RoomReader.Proofs.Json.Record

namespace RoomReader

/-!
# Events written back

What a value is read as is read again, without a loss, from what is written of it. Fields that say
nothing are left out and the previous content has one place instead of two, so a second writing
changes nothing more.
-/

open Json

theorem CreateContent.ofJson?_toJson (c : CreateContent) : ofJson? c.toJson = some c := by
  simp [ofJson?, toJson, record?]

theorem NameContent.ofJson?_toJson (c : NameContent) : ofJson? c.toJson = some c := by
  simp [ofJson?, toJson, record?]

theorem TopicContent.ofJson?_toJson (c : TopicContent) : ofJson? c.toJson = some c := by
  simp [ofJson?, toJson, record?]

theorem AvatarContent.ofJson?_toJson (c : AvatarContent) : ofJson? c.toJson = some c := by
  simp [ofJson?, toJson, record?]

theorem CanonicalAliasContent.ofJson?_toJson (c : CanonicalAliasContent) :
    ofJson? c.toJson = some c := by
  simp [ofJson?, toJson, record?]

theorem AliasesContent.ofJson?_toJson (c : AliasesContent) : ofJson? c.toJson = some c := by
  simp [ofJson?, toJson, record?, withDefault, list?_ofList text?_str]

theorem MemberContent.ofJson?_toJson (c : MemberContent) : ofJson? c.toJson = some c := by
  simp [ofJson?, toJson, record?]

theorem PowerLevels.ofJson?_toJson (levels : PowerLevels) :
    ofJson? levels.toJson = some levels := by
  simp [ofJson?, toJson, tableToJson, record?, withDefault, map?_entries int64?_ofInt64]

namespace EventContent

variable {eventType : String} {v : Json} {c : EventContent}

/-- What one content type is read as fits it again. -/
theorem reread {α : Type} {read : Json → Option α} {content : α → EventContent}
    (hread : ∀ a, read (content a).toJson = some a)
    (htype : ∀ a, (content a).eventType = eventType)
    (hother : ∀ a t payload, content a ≠ other t payload) (h : (read v).map content = some c) :
    c.eventType = eventType ∧ (∀ t payload, c ≠ other t payload) ∧
      (read c.toJson).map content = some c := by
  obtain ⟨a, -, rfl⟩ := Option.map_eq_some_iff.1 h
  exact ⟨htype a, hother a, by rw [hread, Option.map_some]⟩

/-- A typed content has the type that it was read for, and fits it again. -/
theorem reread_typed? (h : typed? eventType v = some c) :
    c.eventType = eventType ∧ (∀ t payload, c ≠ other t payload) ∧
      typed? eventType c.toJson = some c := by
  unfold typed? at h ⊢
  -- Both values are read for one type, so the same branch is taken for both.
  split_ifs at h ⊢ with hcreate hname htopic havatar hcanonical haliases hmember hlevels
  · exact reread CreateContent.ofJson?_toJson (fun _ => hcreate.symm) nofun h
  · exact reread NameContent.ofJson?_toJson (fun _ => hname.symm) nofun h
  · exact reread TopicContent.ofJson?_toJson (fun _ => htopic.symm) nofun h
  · exact reread AvatarContent.ofJson?_toJson (fun _ => havatar.symm) nofun h
  · exact reread CanonicalAliasContent.ofJson?_toJson (fun _ => hcanonical.symm) nofun h
  · exact reread AliasesContent.ofJson?_toJson (fun _ => haliases.symm) nofun h
  · exact reread MemberContent.ofJson?_toJson (fun _ => hmember.symm) nofun h
  · exact reread PowerLevels.ofJson?_toJson (fun _ => hlevels.symm) nofun h

/-- A content is that of a redaction, or a misfit, or typed. -/
theorem ofJson_cases (eventType : String) (v : Json) :
    eventType = EventType.redaction ∧ ofJson eventType v = redaction v ∨
      eventType ≠ EventType.redaction ∧
        (typed? eventType v = none ∧ ofJson eventType v = other eventType v ∨
          ∃ c, typed? eventType v = some c ∧ ofJson eventType v = c) := by
  by_cases hredaction : eventType = EventType.redaction
  · exact .inl ⟨hredaction, by rw [ofJson, if_pos hredaction]⟩
  · refine .inr ⟨hredaction, ?_⟩
    rw [ofJson, if_neg hredaction]
    cases typed? eventType v with
    | none => exact .inl ⟨rfl, rfl⟩
    | some c => exact .inr ⟨c, rfl, rfl⟩

theorem eventType_ofJson (eventType : String) (v : Json) :
    (ofJson eventType v).eventType = eventType := by
  rcases ofJson_cases eventType v with ⟨hredaction, h⟩ | ⟨-, ⟨-, h⟩ | ⟨c, htyped, h⟩⟩
  · rw [h, hredaction]
    rfl
  · rw [h]
    rfl
  · rw [h, (reread_typed? htyped).1]

theorem ofJson_toJson_ofJson (eventType : String) (v : Json) :
    ofJson eventType (ofJson eventType v).toJson = ofJson eventType v := by
  rcases ofJson_cases eventType v with ⟨-, h⟩ | ⟨hredaction, ⟨-, h⟩ | ⟨c, htyped, h⟩⟩
  · rw [h, toJson, h]
  · rw [h, toJson, h]
  · rw [h, ofJson, if_neg hredaction, (reread_typed? htyped).2.2, Option.getD_some]

/-- A content without a type of its own is the value it was read from. -/
theorem eq_of_ofJson_eq_other {t : String} {payload : Json}
    (hother : ofJson eventType v = other t payload) : payload = v := by
  rcases ofJson_cases eventType v with ⟨-, h⟩ | ⟨-, ⟨-, h⟩ | ⟨c, htyped, h⟩⟩
  · cases hother.symm.trans h
  · cases hother.symm.trans h
    rfl
  · exact absurd (h.symm.trans hother) ((reread_typed? htyped).2.1 t payload)

end EventContent

namespace Event

variable {v : Json} {e : Event}

/-- The fields of an event are those of the value it was read from. -/
structure ReadFrom (v : Json) (e : Event) : Prop where
  id : v.at? 0 "event_id" = some (.str e.id)
  eventType : v.at? 1 "type" = some (.str e.eventType)
  sender : (v.at? 2 "sender").getD (.str "") = .str e.sender
  stateKey : (v.at? 3 "state_key").bind nonNull? = e.stateKey.map .str
  content : e.content = .ofJson e.eventType ((v.at? 4 "content").getD .null)
  /-- What stands at the top level counts before what stands under `unsigned`. -/
  prevContent : e.prevContent = ((v.at? 5 "prev_content").bind nonNull?).or
    (((v.at? 6 "unsigned").bind (·.at? 0 "prev_content")).bind nonNull?)
  originServerTs : (v.at? 7 "origin_server_ts").getD (.ofInt64 0) = .ofInt64 e.originServerTs

theorem names_shape : shape.names = ["event_id", "type", "sender", "state_key", "content",
    "prev_content", "unsigned", "origin_server_ts"] := rfl

theorem unsignedPrev?_eq_some {prev : Option Json} (h : unsignedPrev? v = some prev) :
    prev = (v.at? 0 "prev_content").bind nonNull? := by
  simp only [unsignedPrev?, Option.bind_eq_bind, Option.bind_eq_some_iff] at h
  obtain ⟨f, hf, h⟩ := h
  rw [record?_at? hf (by decide) 0 rfl, optional_some_eq] at h
  exact (Option.some.inj h).symm

theorem join_of_unsignedPrev? {o : Option Json} {prev : Option (Option Json)}
    (h : Json.optional unsignedPrev? o = some prev) :
    prev.join = (o.bind (·.at? 0 "prev_content")).bind nonNull? := by
  cases o with
  | none =>
    cases h
    rfl
  | some v =>
    by_cases hv : v = .null
    · subst hv
      cases h
      rfl
    · rw [optional_some hv] at h
      obtain ⟨prev, hprev, rfl⟩ := Option.map_eq_some_iff.1 h
      exact unsignedPrev?_eq_some hprev

theorem readFrom (h : ofJson? v = some e) : e.ReadFrom v := by
  simp only [ofJson?, Option.bind_eq_bind, Option.bind_eq_some_iff, Option.pure_def,
    Option.some.injEq] at h
  obtain ⟨f, hf, id, hid, eventType, htype, sender, hsender, stateKey, hstateKey, content,
    hcontent, prev, hprev, unsigned, hunsigned, ts, hts, rfl⟩ := h
  rw [names_shape] at hf
  have hat := record?_at? hf (by decide)
  rw [hat 0 rfl] at hid
  rw [hat 1 rfl] at htype
  rw [hat 2 rfl] at hsender
  rw [hat 3 rfl] at hstateKey
  rw [hat 4 rfl, withDefault_some_eq] at hcontent
  rw [hat 5 rfl, optional_some_eq] at hprev
  rw [hat 6 rfl] at hunsigned
  rw [hat 7 rfl] at hts
  have hname : (EventContent.ofJson eventType content).eventType = eventType :=
    EventContent.eventType_ofJson eventType content
  exact {
    id := required_eq_some (fun _ _ => text?_eq_some) hid
    eventType := by
      rw [Event.eventType, hname]
      exact required_eq_some (fun _ _ => text?_eq_some) htype
    sender := withDefault_eq_some (fun _ _ => text?_eq_some) hsender
    stateKey := optional_eq_some (fun _ _ => text?_eq_some) hstateKey
    content := by
      rw [Event.eventType, hname, Option.some.inj hcontent]
    prevContent := by
      rw [← join_of_unsignedPrev? hunsigned, Option.some.inj hprev]
      exact Option.orElse_eq_or
    originServerTs := withDefault_eq_some (fun _ _ => int64?_eq_some) hts }

/-- A value in the form that the event read from it is written in. -/
def rewritten? (v : Json) : Option Json := (ofJson? v).map toJson

theorem ReadFrom.prevContent_ne_null (h : e.ReadFrom v) :
    e.prevContent.bind nonNull? = e.prevContent := by
  cases hprev : e.prevContent with
  | none => rfl
  | some prev =>
    rw [h.prevContent, Option.or_eq_some_iff] at hprev
    rcases hprev with hprev | ⟨-, hprev⟩
    · exact nonNull?_of_mem hprev
    · exact nonNull?_of_mem hprev

theorem ReadFrom.ofJson?_toJson (h : e.ReadFrom v) : ofJson? e.toJson = some e := by
  have hcontent : .ofJson e.eventType e.content.toJson = e.content := by
    rw [h.content]
    exact EventContent.ofJson_toJson_ofJson _ _
  simp [ofJson?, toJson, record?, required, withDefault, optional_some_eq, hcontent,
    h.prevContent_ne_null]

theorem at?_content_toJson (e : Event) : e.toJson.at? 4 "content" = some e.content.toJson := by
  change lookup? _ "content" = _
  simp

/-- What a value is read as is read from what is written of it, too. A content that is not of its
event's type goes through unchanged. -/
theorem survives_writing {v : Json} {e : Event} (h : ofJson? v = some e) :
    e.ReadFrom v ∧ ofJson? e.toJson = some e ∧
      rewritten? v = some e.toJson ∧ rewritten? e.toJson = some e.toJson ∧
      ∀ t payload, e.content = .other t payload →
        v.at? 1 "type" = some (.str t) ∧ (v.at? 4 "content").getD .null = payload ∧
          e.toJson.at? 4 "content" = some payload ∧
          (ofJson? e.toJson).map content = some (.other t payload) := by
  have hread : e.ReadFrom v := readFrom h
  have hagain : ofJson? e.toJson = some e := hread.ofJson?_toJson
  refine ⟨hread, hagain, ?_, ?_, ?_⟩
  · rw [rewritten?, h, Option.map_some]
  · rw [rewritten?, hagain, Option.map_some]
  · intro t payload hother
    have ht : e.eventType = t := by
      rw [eventType, hother]
      rfl
    have hpayload : payload = (v.at? 4 "content").getD .null :=
      EventContent.eq_of_ofJson_eq_other (hread.content.symm.trans hother)
    refine ⟨ht ▸ hread.eventType, hpayload.symm, ?_, ?_⟩
    · rw [at?_content_toJson, hother]
      rfl
    · rw [hagain, Option.map_some, hother]

end Event

/-! A change of topic as an array of fields that stops before the time. Its topic is a number, and
the topic before it is under `unsigned`. -/

namespace SmallEvent

def value : Json :=
  .arr [.str "$e:hs.one", .str "m.room.topic", .str "@alice:hs.one", .null,
    .obj [("topic", .int 7)], .null, .obj [("prev_content", .obj [("topic", .str "Tea")])]]

def event : Event where
  id := "$e:hs.one"
  sender := "@alice:hs.one"
  stateKey := none
  content := .other "m.room.topic" (.obj [("topic", .int 7)])
  prevContent := some (.obj [("topic", .str "Tea")])
  originServerTs := 0

theorem event_survives : Event.ofJson? value = some event ∧ event.ReadFrom value ∧
    Event.ofJson? event.toJson = some event ∧
    event.toJson.at? 4 "content" = some (.obj [("topic", .int 7)]) := by
  have h : Event.ofJson? value = some event := rfl
  obtain ⟨hread, hagain, -, -, hother⟩ := Event.survives_writing h
  obtain ⟨-, -, hcontent, -⟩ := hother _ _ rfl
  exact ⟨h, hread, hagain, hcontent⟩

end SmallEvent

end RoomReader
