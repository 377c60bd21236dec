import Mathlib.Data.List.TakeWhile
import RoomReader.Proofs.Text.Form
import RoomReader.Server.Basic

namespace RoomReader

/-!
# Where redirects lead

The location of a redirect is a request line again, and the routes of the server read it. A room's id
is form-coded in it, so its spaces come back as plus signs: the page that a visitor is led to is that
of the room exactly when its id has no space. The query of a permalink is read back as it was meant.
-/

namespace Target

variable {path tail : List Char}

theorem takeWhile_of_head? (htail : ∀ c ∈ tail.head?, c = '?') :
    tail.takeWhile (· ≠ '?') = [] ∧ tail.dropWhile (· ≠ '?') = tail := by
  cases tail with
  | nil => exact ⟨rfl, rfl⟩
  | cons c rest =>
      obtain rfl : c = '?' := htail c rfl
      exact ⟨rfl, rfl⟩

theorem ofPath?_append (hpath : path.all isPathChar = true) (htail : ∀ c ∈ tail.head?, c = '?')
    (hquery : (tail.drop 1).all isQueryChar = true) (hne : path ≠ []) :
    ofPath? (path ++ tail) =
      some { path := String.ofList path, query := String.ofList (tail.drop 1) } := by
  have hpath' : ∀ c ∈ path, c ≠ '#' ∧ c ≠ '?' := by
    intro c hc
    have := List.all_eq_true.1 hpath c hc
    constructor <;> rintro rfl <;> cases this
  have htail' : ∀ c ∈ tail, c ≠ '#' := by
    rintro c hc rfl
    cases tail with
    | nil => cases hc
    | cons d rest =>
        obtain rfl : d = '?' := htail d rfl
        rcases List.mem_cons.1 hc with h | h
        · cases h
        · cases List.all_eq_true.1 hquery _ h
  have hhash : (path ++ tail).takeWhile (· ≠ '#') = path ++ tail := by
    refine List.takeWhile_eq_self_iff.2 fun c hc => ?_
    rcases List.mem_append.1 hc with h | h
    · simpa using (hpath' c h).1
    · simpa using htail' c h
  have hstop := takeWhile_of_head? htail
  have hall : ∀ c ∈ path, decide (c ≠ '?') = true := fun c hc => by simpa using (hpath' c hc).2
  simp only [ofPath?, hhash]
  rw [List.takeWhile_append_of_pos hall, List.dropWhile_append_of_pos hall, hstop.1, hstop.2,
    List.append_nil, hpath, hquery, Bool.and_self, if_pos rfl, if_neg (by simpa using hne)]

theorem isPathChar_of_isCoded {c : Char} (hc : Form.isCoded c = true) :
    isPathChar c = true ∧ isQueryChar c = true := by
  have hall : ∀ n < 0x80, Form.isCoded (Char.ofNat n) = true →
      isPathChar (Char.ofNat n) = true ∧ isQueryChar (Char.ofNat n) = true := by decide +kernel
  have h := hall c.toNat (Form.toNat_lt_of_isCoded hc)
  rw [Char.ofNat_toNat] at h
  exact h hc

end Target

namespace PlacePart

/-- A character of a place that stands for itself. -/
def isPlain (c : Char) : Bool := Target.isPathChar c && c != '{' && c != '}'

theorem ofChars_of_plain {segment : List Char} (h : ∀ c ∈ segment, isPlain c = true) :
    ofChars segment = { text := segment } := by
  have hmarked : marked segment = segment.map fun c => (c, false) := by
    induction segment with
    | nil => rfl
    | cons c rest ih =>
        have hc : c ≠ '{' ∧ c ≠ '}' := by
          have := h c List.mem_cons_self
          constructor <;> rintro rfl <;> revert this <;> decide
        have hbrace : (c == '{' || c == '}') = false := by simp [hc]
        rw [marked, ih fun d hd => h d (List.mem_cons_of_mem _ hd), hbrace, List.map_cons]
        · rintro rest rfl rfl
          exact hc.1 rfl
        · rintro rest rfl rfl
          exact hc.2 rfl
  have hall : ∀ p ∈ segment.map fun c => (c, false), (!p.2) = true := by simp
  rw [ofChars, hmarked, List.dropWhile_eq_nil_iff.2 hall, List.takeWhile_eq_self_iff.2 hall,
    List.map_map]
  change ({ text := segment.map id } : PlacePart) = _
  rw [List.map_id]

end PlacePart

namespace Place

/-- What stands before a path that starts with the place lies on the place. -/
theorem below?_map_ofChars {segments : List (List Char)}
    (h : ∀ segment ∈ segments, ∀ c ∈ segment, PlacePart.isPlain c = true)
    (rest : List (List Char)) :
    below? (segments.map PlacePart.ofChars) (segments ++ rest) = some ([], rest) := by
  induction segments with
  | nil => rfl
  | cons segment segments ih =>
      have hpart := PlacePart.ofChars_of_plain (h segment List.mem_cons_self)
      have hmatch : PlacePart.match? { text := segment } segment = some none := by
        simp [PlacePart.match?]
      have hrest := ih fun s hs => h s (List.mem_cons_of_mem _ hs)
      rw [List.map_cons, List.cons_append, below?, hpart, hmatch]
      simp [hrest]

/-- What a visitor finds behind a location: it is a request line that is routed and decoded. -/
def follow? (place : Place) (location : String) : Option (Destination × String) := do
  let target ← Target.parseChars? location.toList
  let written ← Destination.ofPath? place target.path
  let d ← written.decode?
  return (d, target.query)

end Place

theorem Settings.routePrefix_eq (settings : Settings) :
    settings.routePrefix.toList = [] ∨ ∃ inner, settings.routePrefix.toList = '/' :: inner := by
  rw [routePrefix]
  split
  · exact .inl rfl
  · exact .inr ⟨_, String.toList_ofList⟩

namespace Server

/-- The prefix of all paths is written with characters that stand for themselves. -/
def HasPlainPrefix (srv : Server) : Prop :=
  ∀ c ∈ srv.settings.routePrefix.toList, PlacePart.isPlain c = true

/-- A location leads to the page of a room, with a query. -/
def LeadsTo (srv : Server) (location room : String) (query : EventsQuery) : Prop :=
  ∃ form, srv.place.follow? location = some ({ route := .room room }, form) ∧
    EventsQuery.parse? form = some query

variable {srv : Server} {room event : String}

theorem splitAtEach_routePrefix (rest : List Char) :
    splitAtEach '/' (srv.settings.routePrefix.toList ++ '/' :: rest) =
      [] :: ((splitAtEach '/' srv.settings.routePrefix.toList).drop 1 ++ splitAtEach '/' rest) := by
  rw [splitAtEach_append_cons]
  rcases srv.settings.routePrefix_eq with h | ⟨inner, h⟩ <;> rw [h] <;> rfl

theorem encode_ne_empty (hroom : room ≠ "") : Form.encode room ≠ "" := by
  intro h
  have hdecode := Form.decode_encode room
  rw [h] at hdecode
  exact hroom hdecode.symm

theorem ofPath?_roomPath (hplain : srv.HasPlainPrefix) (hroom : room ≠ "") :
    Destination.ofPath? srv.place (roomPath srv.settings.routePrefix room) =
      some { route := .room (Form.encode room) } := by
  have hsegments : splitAtEach '/' ("room/".toList ++ (Form.encode room).toList) =
      ["room".toList, (Form.encode room).toList] := by
    change splitAtEach '/' ("room".toList ++ '/' :: (Form.encode room).toList) = _
    rw [splitAtEach_append_cons, splitAtEach_of_not_mem (Form.not_mem_encode (by decide) room)]
    rfl
  have hplace : ∀ segment ∈ (splitAtEach '/' srv.settings.routePrefix.toList).drop 1,
      ∀ c ∈ segment, PlacePart.isPlain c = true := by
    intro segment hsegment c hc
    refine hplain c ?_
    exact mem_of_mem_splitAtEach (List.mem_of_mem_drop hsegment) hc
  have hpath : (roomPath srv.settings.routePrefix room).toList =
      srv.settings.routePrefix.toList ++ '/' :: ("room/".toList ++ (Form.encode room).toList) := by
    simp [roomPath]
  have hroute : ∀ atRoot, Destination.ofSegments? atRoot [] ["room", Form.encode room] =
      some { route := .room (Form.encode room) } := by
    intro atRoot
    have hne : ["room", Form.encode room] ≠ if atRoot = true then [""] else [] := by
      cases atRoot <;> simp
    rw [Destination.ofSegments?, if_neg hne, Route.ofSegments?, if_neg]
    · rfl
    · simpa using encode_ne_empty hroom
  rw [Destination.ofPath?, hpath, splitAtEach_routePrefix, hsegments]
  simp only [place, Place.ofText, Place.below?_map_ofChars hplace]
  simp [hroute]

theorem isPathChar_of_mem_roomPath (hplain : srv.HasPlainPrefix) :
    (roomPath srv.settings.routePrefix room).toList.all Target.isPathChar = true := by
  rw [List.all_eq_true, roomPath, String.toList_append, String.toList_append]
  intro c hc
  rcases List.mem_append.1 hc with hc | hc
  · rcases List.mem_append.1 hc with hc | hc
    · have := hplain c hc
      rw [PlacePart.isPlain, Bool.and_eq_true, Bool.and_eq_true] at this
      exact this.1.1
    · exact List.all_eq_true.1 (by decide) c hc
  · exact (Target.isPathChar_of_isCoded (Form.isCoded_of_mem_encode hc)).1

/-- Behind the path of a room, with a query or without, a visitor finds the room with plus signs for
the spaces of its id. -/
theorem follow?_roomPath (hplain : srv.HasPlainPrefix) (hroom : room ≠ "") {tail : String}
    (htail : ∀ c ∈ tail.toList.head?, c = '?')
    (hquery : (tail.toList.drop 1).all Target.isQueryChar = true) :
    srv.place.follow? (roomPath srv.settings.routePrefix room ++ tail) =
      some ({ route := .room (Form.plusForSpaces room) }, String.ofList (tail.toList.drop 1)) := by
  have hlead : ∃ rest, (roomPath srv.settings.routePrefix room).toList = '/' :: rest := by
    rw [roomPath, String.toList_append, String.toList_append]
    rcases srv.settings.routePrefix_eq with h | ⟨inner, h⟩ <;> rw [h]
    · exact ⟨_, rfl⟩
    · exact ⟨_, rfl⟩
  have htarget : Target.parseChars? ((roomPath srv.settings.routePrefix room).toList ++ tail.toList) =
      some { path := roomPath srv.settings.routePrefix room
             query := String.ofList (tail.toList.drop 1) } := by
    have hofPath := Target.ofPath?_append (isPathChar_of_mem_roomPath hplain) htail hquery
      (by obtain ⟨rest, h⟩ := hlead; rw [h]; exact List.cons_ne_nil _ _)
    obtain ⟨rest, h⟩ := hlead
    rw [String.ofList_toList] at hofPath
    rw [← hofPath, h]
    rfl
  have hdecode : Destination.decode? { route := .room (Form.encode room) } =
      some { route := .room (Form.plusForSpaces room) } := by
    simp [Destination.decode?, Route.hasText, Route.decode?, Route.mapM?, Form.decodeText?_encode]
  rw [Place.follow?, String.toList_append, htarget]
  simp [ofPath?_roomPath hplain hroom, hdecode]

/-- The query of a permalink. -/
def permalinkQuery (event : String) : EventsQuery :=
  { anchor := some event, offset := some (-permalinkOffset), highlight := some event }

def permalinkPairs (event : String) : List (String × String) :=
  [("anchor", event), ("offset", toString (-permalinkOffset)), ("highlight", event)]

theorem parse?_permalinkPairs (event : String) :
    EventsQuery.parse? (Form.encodePairs (permalinkPairs event)) = some (permalinkQuery event) := by
  rw [EventsQuery.parse?, Query.pairs, Form.decodePairs_encodePairs]
  rfl

theorem isQueryChar_of_mem_encodePairs {pairs : List (String × String)} {c : Char}
    (hc : c ∈ (Form.encodePairs pairs).toList) : Target.isQueryChar c = true := by
  have hpair (name value : String) (hc : c ∈ (Form.encodePair name value).toList) :
      Target.isQueryChar c = true := by
    rw [Form.encodePair, String.toList_append, String.toList_append] at hc
    rcases List.mem_append.1 hc with hc | hc
    · rcases List.mem_append.1 hc with hc | hc
      · exact (Target.isPathChar_of_isCoded (Form.isCoded_of_mem_encode hc)).2
      · exact List.all_eq_true.1 (by decide) c hc
    · exact (Target.isPathChar_of_isCoded (Form.isCoded_of_mem_encode hc)).2
  rw [Form.encodePairs] at hc
  induction pairs with
  | nil => cases hc
  | cons p pairs ih =>
      cases pairs with
      | nil => exact hpair p.1 p.2 (by simpa using hc)
      | cons q pairs =>
          rw [List.map_cons, List.map_cons, String.intercalate_cons_cons, String.toList_append,
            String.toList_append] at hc
          rcases List.mem_append.1 hc with hc | hc
          · rcases List.mem_append.1 hc with hc | hc
            · exact hpair p.1 p.2 hc
            · exact List.all_eq_true.1 (by decide) c hc
          · exact ih (by simpa using hc)

/-- Behind the prefix and `/room/` a location has a segment that is read as the room, and a query. -/
def Spells (srv : Server) (location room : String) (query : EventsQuery) : Prop :=
  ∃ rest : String, location = srv.settings.routePrefix ++ "/room/" ++ rest ∧
    Percent.decodeText? (String.ofList (rest.toList.takeWhile (· ≠ '?'))) = some room ∧
    EventsQuery.parse? (String.ofList ((rest.toList.dropWhile (· ≠ '?')).drop 1)) = some query

/-- A location is read as the page of a room, as it is written and by the routes. -/
def IsReadAs (srv : Server) (location room : String) (query : EventsQuery) : Prop :=
  srv.Spells location room query ∧ (srv.HasPlainPrefix → srv.LeadsTo location room query)

theorem Spells.eq {location room room' : String} {query query' : EventsQuery}
    (h : srv.Spells location room query) (h' : srv.Spells location room' query') :
    room = room' ∧ query = query' := by
  obtain ⟨rest, rfl, hroom, hquery⟩ := h
  obtain ⟨rest', hrest, hroom', hquery'⟩ := h'
  obtain rfl : rest = rest' := by
    rw [← String.toList_inj, String.toList_append, String.toList_append (t := rest')] at hrest
    exact String.toList_inj.1 (List.append_cancel_left hrest)
  rw [hroom] at hroom'
  rw [hquery] at hquery'
  exact ⟨Option.some.inj hroom', Option.some.inj hquery'⟩

theorem ne_of_mem_encode (room : String) : ∀ c ∈ (Form.encode room).toList, decide (c ≠ '?') = true := by
  intro c hc
  rw [decide_eq_true_iff]
  rintro rfl
  exact Form.not_mem_encode (by decide) room hc

theorem isReadAs_roomPath (hroom : room ≠ "") {tail : String} {query : EventsQuery}
    (htail : ∀ c ∈ tail.toList.head?, c = '?')
    (hchars : (tail.toList.drop 1).all Target.isQueryChar = true)
    (hquery : EventsQuery.parse? (String.ofList (tail.toList.drop 1)) = some query) :
    srv.IsReadAs (roomPath srv.settings.routePrefix room ++ tail) (Form.plusForSpaces room)
      query := by
  have hstop := Target.takeWhile_of_head? htail
  refine ⟨⟨Form.encode room ++ tail, ?_, ?_, ?_⟩, fun hplain => ?_⟩
  · rw [roomPath, String.append_assoc]
  · rw [String.toList_append, List.takeWhile_append_of_pos (ne_of_mem_encode room), hstop.1, List.append_nil,
      String.ofList_toList, Form.decodeText?_encode]
  · rw [String.toList_append, List.dropWhile_append_of_pos (ne_of_mem_encode room), hstop.2, hquery]
  · exact ⟨_, follow?_roomPath hplain hroom htail hchars, hquery⟩

theorem IsReadAs.back_iff {location : String} {query : EventsQuery}
    (h : srv.IsReadAs location (Form.plusForSpaces room) query) :
    srv.IsReadAs location room query ↔ ' ' ∉ room.toList := by
  rw [← Form.plusForSpaces_eq_self_iff]
  refine ⟨fun hback => (h.1.eq hback.1).1, fun heq => ?_⟩
  rwa [heq] at h

/-- Every redirect to a room is read as the page of the room with plus signs for the spaces of its
id, and so it leads back exactly when there are none. The query of a permalink is as it was meant. -/
theorem redirect_leads_back_iff {σ : Type} (hs : Homeserver σ) (now : Time) (query : String)
    (srv : Server) (s : σ) {room : String} (hroom : room ≠ "") :
    (∀ event, ∃ location,
      srv.get hs now (.permalink room event) query s = (some (.redirect location), srv, s) ∧
      srv.IsReadAs location (Form.plusForSpaces room)
        { anchor := some event, offset := some (-10), highlight := some event } ∧
      (srv.IsReadAs location room
        { anchor := some event, offset := some (-10), highlight := some event } ↔
          ' ' ∉ room.toList)) ∧
    ∀ roomAlias srv' s', srv.resolveAlias hs now roomAlias s = (some (.ok room), srv', s') →
      ∃ location,
        srv.get hs now (.resolve roomAlias) query s = (some (.redirect location), srv', s') ∧
        srv'.IsReadAs location (Form.plusForSpaces room) {} ∧
        (srv'.IsReadAs location room {} ↔ ' ' ∉ room.toList) := by
  constructor
  · intro event
    have hread : srv.IsReadAs (permalinkPath srv.settings.routePrefix room event)
        (Form.plusForSpaces room) (permalinkQuery event) := by
      rw [permalinkPath, String.append_assoc]
      have hdrop : ("?" ++ Form.encodePairs (permalinkPairs event)).toList.drop 1 =
          (Form.encodePairs (permalinkPairs event)).toList := by
        rw [String.toList_append]
        rfl
      refine isReadAs_roomPath hroom ?_ ?_ ?_
      · rw [String.toList_append]
        rintro c ⟨⟩
        rfl
      · rw [List.all_eq_true]
        intro c hc
        exact isQueryChar_of_mem_encodePairs (hdrop ▸ hc)
      · have hparse := parse?_permalinkPairs event
        rwa [← String.ofList_toList (s := Form.encodePairs (permalinkPairs event)), ← hdrop] at hparse
    exact ⟨_, rfl, hread, hread.back_iff⟩
  · intro roomAlias srv' s' hresolve
    have hread : srv'.IsReadAs (roomPath srv'.settings.routePrefix room)
        (Form.plusForSpaces room) {} := by
      have h : srv'.IsReadAs (roomPath srv'.settings.routePrefix room ++ "")
          (Form.plusForSpaces room) {} :=
        isReadAs_roomPath hroom (by simp) rfl (by decide +kernel)
      rwa [String.append_empty] at h
    refine ⟨_, ?_, hread, hread.back_iff⟩
    rw [get, hresolve]

end Server

/-! A homeserver on which every alias leads to a room with a space in its id. -/

namespace SpacedRoom

open RoomReader.Server

def room : String := "!a b:hs.one"

def homeserver : Homeserver Unit where
  respond c _ :=
    match c with
    | .resolveAlias _ => (some (.ok { roomId := room }), ())
    | .sync .. | .messages .. | .publicRooms => (none, ())

def server : Server := .ofSettings {} ""

theorem resolveAlias_server : ∃ srv,
    server.resolveAlias homeserver 0 "#a:hs.one" () = (some (.ok room), srv, ()) :=
  ⟨_, rfl⟩

theorem redirects_read_with_plus : room ≠ "" ∧
    (∃ location,
      server.get homeserver 0 (.permalink room "$e") "" () =
        (some (.redirect location), server, ()) ∧
      server.IsReadAs location "!a+b:hs.one"
        { anchor := some "$e", offset := some (-10), highlight := some "$e" }) ∧
    ∃ location srv, server.get homeserver 0 (.resolve "#a:hs.one") "" () =
        (some (.redirect location), srv, ()) ∧
      srv.IsReadAs location "!a+b:hs.one" {} := by
  have hroom : room ≠ "" := by decide
  have hplus : Form.plusForSpaces room = "!a+b:hs.one" := by decide +kernel
  obtain ⟨hpermalink, halias⟩ := redirect_leads_back_iff homeserver 0 "" server () hroom
  obtain ⟨location, hget, hread, -⟩ := hpermalink "$e"
  obtain ⟨srv, hresolve⟩ := resolveAlias_server
  obtain ⟨location', hget', hread', -⟩ := halias _ _ _ hresolve
  rw [hplus] at hread hread'
  exact ⟨hroom, ⟨location, hget, hread⟩, location', srv, hget', hread'⟩

theorem permalink_leads_astray : room ≠ "" ∧
    server.get homeserver 0 (.permalink room "$e") "" () =
      (some (.redirect "/room/%21a+b%3Ahs.one?anchor=%24e&offset=-10&highlight=%24e"), server, ()) ∧
    server.LeadsTo "/room/%21a+b%3Ahs.one?anchor=%24e&offset=-10&highlight=%24e" "!a+b:hs.one"
      { anchor := some "$e", offset := some (-10), highlight := some "$e" } ∧
    ¬ ∃ query, server.LeadsTo "/room/%21a+b%3Ahs.one?anchor=%24e&offset=-10&highlight=%24e"
      room query := by
  have hlocation : permalinkPath "" room "$e" =
      "/room/%21a+b%3Ahs.one?anchor=%24e&offset=-10&highlight=%24e" := by decide +kernel
  have hfollow : server.place.follow?
      "/room/%21a+b%3Ahs.one?anchor=%24e&offset=-10&highlight=%24e" =
        some ({ route := .room "!a+b:hs.one" }, "anchor=%24e&offset=-10&highlight=%24e") := by
    decide +kernel
  refine ⟨by decide, ?_, ⟨_, hfollow, by decide +kernel⟩, ?_⟩
  · rw [← hlocation]
    rfl
  · rintro ⟨query, form, hother, -⟩
    rw [hfollow] at hother
    have hroute : Route.room "!a+b:hs.one" = .room room :=
      congrArg (·.1.route) (Option.some.inj hother)
    exact absurd hroute (by decide)

end SpacedRoom

end RoomReader
