import Mathlib
import RoomReader.Directory
import RoomReader.Proofs.Pagination
import RoomReader.Proofs.Transcript
import RoomReader.Proofs.Url.Thumbnail

namespace RoomReader

/-!
# The directory over many refreshes

Whatever a homeserver answers, the directory lists the last answer that it gave, and no room in it
but those that all the world may read. A load asks again after a failure, three times in all. The
pages of a search list what matches it, in order and without a gap.
-/

/-- The rooms that a call for the directory brought. -/
def Answered.listing? : Answered → Option (List PublicRoom)
  | ⟨.publicRooms, .ok answer⟩ => some answer.chunk
  | _ => none

/-- The last listing in a transcript; before the first there are no rooms. -/
def lastListing (transcript : List Answered) : List PublicRoom :=
  (transcript.filterMap Answered.listing?).getLast?.getD []

namespace Directory

variable {mediaBase : String} {d d' : Directory} {answers : List Answered}

/-! ## One refresh -/

structure ListedAs (mediaBase : String) (r r' : PublicRoom) : Prop where
  same : { r' with canonicalAlias := r.canonicalAlias, avatarUrl := r.avatarUrl } = r
  canonical : ∀ roomAlias, r.canonicalAlias = some roomAlias → roomAlias ≠ "" →
    r'.canonicalAlias = some roomAlias
  first : r.canonicalAlias = none ∨ r.canonicalAlias = some "" →
    r'.canonicalAlias = r.aliases.head?
  avatar : Media.ShowsAvatar mediaBase r.avatarUrl r'.avatarUrl

theorem listedAs_listed (mediaBase : String) (r : PublicRoom) :
    ListedAs mediaBase r (listed mediaBase r) := by
  refine ⟨rfl, ?_, ?_, Media.showsAvatar_thumbnail? mediaBase r.avatarUrl⟩
  · intro roomAlias halias hne
    simp [listed, primaryAlias, halias, hne]
  · rintro (hnone | hempty)
    · simp [listed, primaryAlias, hnone]
    · simp [listed, primaryAlias, hempty]

/-- The directory has exactly the world readable rooms of a listing, in its order. -/
def Shows (mediaBase : String) (chunk : List PublicRoom) (d : Directory) : Prop :=
  List.Forall₂ (ListedAs mediaBase) (chunk.filter (·.worldReadable)) d.rooms

theorem shows_ofChunk (mediaBase : String) (chunk : List PublicRoom) :
    (ofChunk mediaBase chunk).Shows mediaBase chunk := by
  rw [Shows, ofChunk, List.forall₂_map_right_iff]
  exact List.forall₂_same.2 fun r _ => listedAs_listed mediaBase r

theorem worldReadable_ofChunk {chunk : List PublicRoom} {r : PublicRoom}
    (hr : r ∈ (ofChunk mediaBase chunk).rooms) : r.worldReadable = true := by
  obtain ⟨r', hr', rfl⟩ := List.mem_map.1 hr
  exact (List.mem_filter.1 hr').2

abbrev failure (e : ApiError) : Answered := ⟨.publicRooms, .error e⟩

theorem update_eq (mediaBase : String) (d : Directory) :
    d.update mediaBase = .ask .publicRooms fun answer : Except ApiError PublicRooms =>
      match answer with
      | .error e => .done (.error e, d)
      | .ok listing =>
        .done (.ok (ofChunk mediaBase listing.chunk).size, ofChunk mediaBase listing.chunk) := by
  refine congrArg (Exchange.ask _) (funext fun answer => ?_)
  cases answer <;> rfl

theorem reaches_update {y : Exchange (Except ApiError Nat × Directory)}
    (h : (d.update mediaBase).Reaches answers y) :
    (answers = [] ∧ ∃ next, y = .ask .publicRooms next) ∨
    (∃ e, answers = [failure e] ∧ y = .done (.error e, d)) ∨
    ∃ listing : PublicRooms, answers = [⟨.publicRooms, .ok listing⟩] ∧
      y = .done (.ok (ofChunk mediaBase listing.chunk).size, ofChunk mediaBase listing.chunk) := by
  rw [update_eq] at h
  cases h with
  | refl => exact .inl ⟨rfl, _, rfl⟩
  | @answer _ _ answer rest _ hrest =>
      cases answer with
      | error e =>
          cases hrest
          exact .inr (.inl ⟨e, rfl, rfl⟩)
      | ok listing =>
          cases hrest
          exact .inr (.inr ⟨listing, rfl, rfl⟩)

/-- A directory is asked for until an answer comes, and no more than a number of times. -/
theorem reaches_tryUpdate {n : Nat} {y : Exchange (Nat × Directory)}
    (h : (d.tryUpdate mediaBase n).Reaches answers y) :
    ∃ errors : List ApiError,
      (answers = errors.map failure ∧ errors.length < n ∧ ∃ next, y = .ask .publicRooms next) ∨
      (answers = errors.map failure ∧ errors.length = n ∧ y = .done (0, d)) ∨
      ∃ listing : PublicRooms, answers = errors.map failure ++ [⟨.publicRooms, .ok listing⟩] ∧
        errors.length < n ∧
        y = .done ((ofChunk mediaBase listing.chunk).size, ofChunk mediaBase listing.chunk) := by
  induction n generalizing answers with
  | zero =>
      cases h
      exact ⟨[], .inr (.inl ⟨rfl, rfl, rfl⟩)⟩
  | succ n ih =>
      rw [tryUpdate, update_eq] at h
      cases h with
      | refl => exact ⟨[], .inl ⟨rfl, Nat.succ_pos n, _, rfl⟩⟩
      | @answer _ _ answer rest _ hrest =>
          cases answer with
          | ok listing =>
              cases hrest
              exact ⟨[], .inr (.inr ⟨listing, rfl, Nat.succ_pos n, rfl⟩)⟩
          | error e =>
              obtain ⟨errors, hend⟩ := ih hrest
              refine ⟨e :: errors, ?_⟩
              rcases hend with ⟨rfl, hlt, hask⟩ | ⟨rfl, heq, hdone⟩ | ⟨listing, rfl, hlt, hdone⟩
              · exact .inl ⟨rfl, Nat.succ_lt_succ hlt, hask⟩
              · exact .inr (.inl ⟨rfl, congrArg (· + 1) heq, hdone⟩)
              · exact .inr (.inr ⟨listing, rfl, Nat.succ_lt_succ hlt, hdone⟩)

/-! ## Many refreshes -/

inductive Refresh
  | update
  | load

/-- What the directory comes to. An exchange that never comes back leaves it as it is. -/
def leave {σ α : Type} (hs : Homeserver σ) (x : Directory → Exchange (α × Directory))
    (p : Directory × σ) : Directory × σ :=
  match (x p.1).run hs p.2 with
  | (some (_, d), s) => (d, s)
  | (none, s) => (p.1, s)

def refresh {σ : Type} (hs : Homeserver σ) (mediaBase : String) (p : Directory × σ) :
    Refresh → Directory × σ
  | .update => leave hs (·.update mediaBase) p
  | .load => leave hs (·.load mediaBase) p

def refreshAll {σ : Type} (hs : Homeserver σ) (mediaBase : String) (refreshes : List Refresh)
    (p : Directory × σ) : Directory × σ :=
  refreshes.foldl (refresh hs mediaBase) p

/-- After calls that failed the directory is as it was, and after an answer it has that. -/
inductive Turns (mediaBase : String) (d : Directory) : List Answered → Directory → Prop
  | kept (errors : List ApiError) : Turns mediaBase d (errors.map failure) d
  | taken (errors : List ApiError) (listing : PublicRooms) :
      Turns mediaBase d (errors.map failure ++ [⟨.publicRooms, .ok listing⟩])
        (ofChunk mediaBase listing.chunk)

/-- As long as an exchange asks, the directory is as it was. -/
def TurnsBy {α : Type} (mediaBase : String) (d : Directory) (x : Exchange (α × Directory)) : Prop :=
  ∀ answers y, x.Reaches answers y →
    (d.Turns mediaBase answers d ∧ ∃ c next, y = .ask c next) ∨
    ∃ a d', y = .done (a, d') ∧ d.Turns mediaBase answers d'

theorem turnsBy_update (mediaBase : String) (d : Directory) :
    d.TurnsBy mediaBase (d.update mediaBase) := by
  intro answers y h
  rcases reaches_update h with ⟨rfl, hask⟩ | ⟨e, rfl, hdone⟩ | ⟨listing, rfl, hdone⟩
  · exact .inl ⟨.kept [], _, hask⟩
  · exact .inr ⟨_, d, hdone, .kept [e]⟩
  · exact .inr ⟨_, _, hdone, .taken [] listing⟩

theorem turnsBy_load (mediaBase : String) (d : Directory) :
    d.TurnsBy mediaBase (d.load mediaBase) := by
  intro answers y h
  obtain ⟨errors, ⟨rfl, -, hask⟩ | ⟨rfl, -, hdone⟩ | ⟨listing, rfl, -, hdone⟩⟩ :=
    reaches_tryUpdate h
  · exact .inl ⟨.kept errors, _, hask⟩
  · exact .inr ⟨_, d, hdone, .kept errors⟩
  · exact .inr ⟨_, _, hdone, .taken errors listing⟩

section

variable {σ : Type} {hs : Homeserver σ} {s s' : σ} {transcript transcript' : List Answered}

theorem TurnsBy.leave {α : Type} {x : Directory → Exchange (α × Directory)}
    (hx : d.TurnsBy mediaBase (x d))
    (h : leave hs.recorded x (d, s, transcript) = (d', s', transcript')) :
    ∃ answers, transcript' = transcript ++ answers ∧ d.Turns mediaBase answers d' := by
  unfold Directory.leave at h
  split at h
  · obtain ⟨answers, htranscript, hreaches⟩ := Exchange.exists_reaches_of_run ‹_›
    cases h
    rcases hx _ _ hreaches with ⟨-, c, next, hask⟩ | ⟨a, d', hdone, hturns⟩
    · cases hask
    · cases hdone
      exact ⟨answers, htranscript, hturns⟩
  · obtain ⟨answers, c, next, htranscript, hreaches⟩ := Exchange.exists_reaches_of_hang ‹_›
    cases h
    rcases hx _ _ hreaches with ⟨hturns, -⟩ | ⟨a, d', hdone, -⟩
    · exact ⟨answers, htranscript, hturns⟩
    · cases hdone

theorem exists_turns {r : Refresh}
    (h : refresh hs.recorded mediaBase (d, s, transcript) r = (d', s', transcript')) :
    ∃ answers, transcript' = transcript ++ answers ∧ d.Turns mediaBase answers d' := by
  cases r with
  | update => exact (turnsBy_update mediaBase d).leave h
  | load => exact (turnsBy_load mediaBase d).leave h

theorem Turns.eq_ofChunk (h : d.Turns mediaBase answers d')
    (hd : d = ofChunk mediaBase (lastListing transcript)) :
    d' = ofChunk mediaBase (lastListing (transcript ++ answers)) := by
  have hfailures (errors : List ApiError) :
      (errors.map failure).filterMap Answered.listing? = [] := by
    refine List.filterMap_eq_nil_iff.2 fun a ha => ?_
    obtain ⟨e, -, rfl⟩ := List.mem_map.1 ha
    rfl
  cases h with
  | kept errors =>
      rw [lastListing, List.filterMap_append, hfailures, List.append_nil]
      exact hd
  | taken errors listing =>
      rw [lastListing, List.filterMap_append, List.filterMap_append, hfailures]
      simp [Answered.listing?]

/-- However it is refreshed, the directory is made of the last listing. -/
theorem refreshAll_eq_ofChunk {refreshes : List Refresh}
    (hd : d = ofChunk mediaBase (lastListing transcript))
    (h : refreshAll hs.recorded mediaBase refreshes (d, s, transcript) = (d', s', transcript')) :
    d' = ofChunk mediaBase (lastListing transcript') := by
  induction refreshes generalizing d s transcript with
  | nil =>
      cases h
      exact hd
  | cons r refreshes ih =>
      rw [refreshAll, List.foldl_cons] at h
      generalize hstep : refresh hs.recorded mediaBase (d, s, transcript) r = p at h
      obtain ⟨d₁, s₁, transcript₁⟩ := p
      obtain ⟨answers, rfl, hturns⟩ := exists_turns hstep
      exact ih (hturns.eq_ofChunk hd) h

end

/-! ## What a search finds -/

theorem trim_eq_empty_iff {query : String} :
    Blank.trim query = "" ↔ Blank.isEmpty query = true := by
  rw [Blank.trim, String.ofList_eq_empty_iff, Blank.isEmpty, List.all_eq_true, Blank.trimBy,
    List.reverse_eq_nil_iff]
  constructor
  · intro hnil
    rw [List.dropWhile_eq_nil_iff] at hnil
    refine List.dropWhile_eq_nil_iff.1 ?_
    by_contra hne
    -- What is left at the front begins with a character that is not blank.
    have hhead := hnil _ (List.mem_reverse.2 (List.head_mem hne))
    rw [List.head_dropWhile_not Blank.isBlank hne] at hhead
    cases hhead
  · intro hall
    rw [List.dropWhile_eq_nil_iff.2 hall]
    rfl

theorem lowerChar_ne_nil (c : Char) : Lowercase.lowerChar c ≠ [] := by
  unfold Lowercase.lowerChar
  split
  · nofun
  · split
    · nofun
    · split <;> nofun

theorem lower_eq_empty_iff {s : String} : Lowercase.lower s = "" ↔ s = "" := by
  rw [Lowercase.lower, String.ofList_eq_empty_iff, ← String.toList_eq_nil_iff]
  cases s.toList with
  | nil => simp [Lowercase.lowerFrom]
  | cons c rest =>
      refine iff_of_false (fun hnil => ?_) (List.cons_ne_nil c rest)
      rw [Lowercase.lowerFrom, List.append_eq_nil_iff] at hnil
      have hhead := hnil.1
      split at hhead
      · cases hhead
      · exact lowerChar_ne_nil c hhead

/-- A query looks for nothing exactly when it is blank. -/
theorem needle_eq_empty_iff {query : String} : needle query = "" ↔ Blank.isEmpty query = true := by
  rw [needle, lower_eq_empty_iff, trim_eq_empty_iff]

theorem occursIn_iff {part cs : List Char} : occursIn part cs = true ↔ part <:+: cs := by
  induction cs with
  | nil => simp [occursIn]
  | cons c rest ih =>
      rw [occursIn, Bool.or_eq_true, List.isPrefixOf_iff_prefix, ih, List.infix_cons_iff]

/-- A text has a query in it when both are in lower case. -/
def Mentions (query : String) (field : Option String) : Prop :=
  ∃ text ∈ field, (needle query).toList <:+: (Lowercase.lower text).toList

/-- What it means that a room matches a query. -/
def Matches (query : String) (r : PublicRoom) : Prop :=
  Blank.isEmpty query = true ∨ Mentions query r.name ∨ Mentions query r.topic ∨
    ((needle query).toList.head? = some '#' ∧ Mentions query r.canonicalAlias)

theorem contains_needle_iff {query : String} {field : Option String} :
    contains (needle query) field = true ↔ Mentions query field := by
  cases field with
  | none => simp [contains, Mentions]
  | some text => simp [contains, Mentions, occursIn_iff]

theorem matches_iff {query : String} {r : PublicRoom} (hquery : needle query ≠ "") :
    Matches query r ↔ isMatch (needle query) r = true := by
  rw [isMatch, Bool.or_eq_true, Bool.or_eq_true, Bool.and_eq_true, contains_needle_iff,
    contains_needle_iff, contains_needle_iff, beq_iff_eq]
  constructor
  · rintro (hblank | hname | htopic | halias)
    · exact absurd (needle_eq_empty_iff.2 hblank) hquery
    · exact .inl (.inr hname)
    · exact .inr htopic
    · exact .inl (.inl halias)
  · rintro ((halias | hname) | htopic)
    · exact .inr (.inr (.inr halias))
    · exact .inr (.inl hname)
    · exact .inr (.inr (.inl htopic))

instance (query : String) (r : PublicRoom) : Decidable (Matches query r) :=
  if hquery : needle query = "" then .isTrue (.inl (needle_eq_empty_iff.1 hquery))
  else decidable_of_iff _ (matches_iff hquery).symm

/-- The pages of a search are those of the rooms that match. -/
theorem search_eq (d : Directory) (page pageSize : Nat) (query : String) :
    d.search page pageSize query =
      Pagination.slice page pageSize (d.rooms.filter fun r => Matches query r) := by
  simp only [search]
  split
  · rename_i hempty
    have hall : (d.rooms.filter fun r => decide (Matches query r)) = d.rooms := by
      refine List.filter_eq_self.2 fun r _ => decide_eq_true ?_
      exact .inl (needle_eq_empty_iff.1 (String.isEmpty_iff.1 hempty))
    rw [hall, Directory.page]
  · rename_i hempty
    have hquery : needle query ≠ "" := fun h => hempty (String.isEmpty_iff.2 h)
    refine congrArg _ (List.filter_congr fun r _ => ?_)
    rw [Bool.eq_iff_iff, decide_eq_true_iff, matches_iff hquery]

theorem flatMap_search (hsize : d.size ≤ Count.limit) (pageSize : Nat) (query : String) (n : Nat) :
    (List.range n).flatMap (fun k => d.search (k + 1) pageSize query) =
      (d.rooms.filter fun r => Matches query r).take (n * pageSize) := by
  simp only [search_eq]
  exact Pagination.flatMap_slice ((List.length_filter_le ..).trans hsize) pageSize n

/-- However a directory is refreshed, it shows the last listing of the homeserver. An update that
fails changes nothing. A load makes at most three calls and ends with the first answer. The pages of
a query are the rooms that match it, if there are no more than can be counted, and no page has a
room that is not world readable. -/
theorem shows_last_listing {σ : Type} {hs : Homeserver σ} {refreshes : List Refresh} {s s' : σ}
    {transcript : List Answered}
    (hrun : refreshAll hs.recorded mediaBase refreshes ({}, s, []) = (d, s', transcript)) :
    d.Shows mediaBase (lastListing transcript) ∧
    (∀ answers e d', (d.update mediaBase).Reaches answers (.done (.error e, d')) → d' = d) ∧
    (∀ answers count d', (d.update mediaBase).Reaches answers (.done (.ok count, d')) →
      ∃ listing : PublicRooms, answers = [⟨.publicRooms, .ok listing⟩] ∧
        d'.Shows mediaBase listing.chunk ∧ count = d'.size) ∧
    (∀ answers y, (d.load mediaBase).Reaches answers y → ∃ errors : List ApiError,
      (answers = errors.map failure ∧ errors.length < 3 ∧ ∃ next, y = .ask .publicRooms next) ∨
      (answers = errors.map failure ∧ errors.length = 3 ∧ y = .done (0, d)) ∨
      ∃ (listing : PublicRooms) (d' : Directory), d'.Shows mediaBase listing.chunk ∧
        answers = errors.map failure ++ [⟨.publicRooms, .ok listing⟩] ∧ errors.length < 3 ∧
        y = .done (d'.size, d')) ∧
    (d.size ≤ Count.limit → ∀ pageSize query n, 1 ≤ pageSize → d.size ≤ n →
      (List.range n).flatMap (fun k => d.search (k + 1) pageSize query) =
        d.rooms.filter (fun r => Matches query r) ∧
      (List.range n).flatMap (fun k => d.page (k + 1) pageSize) = d.rooms) ∧
    ∀ page pageSize query r, r ∈ d.search page pageSize query ∨ r ∈ d.page page pageSize →
      r.worldReadable = true := by
  have hstart : ({} : Directory) = ofChunk mediaBase (lastListing []) := rfl
  have hd := refreshAll_eq_ofChunk hstart hrun
  refine ⟨?_, ?_, ?_, ?_, ?_, ?_⟩
  · rw [hd]
    exact shows_ofChunk ..
  · intro answers e d' h
    rcases reaches_update h with ⟨-, next, hask⟩ | ⟨e', -, hdone⟩ | ⟨listing, -, hdone⟩
    · cases hask
    · cases hdone
      rfl
    · cases hdone
  · intro answers count d' h
    rcases reaches_update h with ⟨-, next, hask⟩ | ⟨e', -, hdone⟩ | ⟨listing, hanswers, hdone⟩
    · cases hask
    · cases hdone
    · cases hdone
      exact ⟨listing, hanswers, shows_ofChunk .., rfl⟩
  · intro answers y h
    obtain ⟨errors, hasks | hfails | ⟨listing, hanswers, hlt, hdone⟩⟩ := reaches_tryUpdate h
    · exact ⟨errors, .inl hasks⟩
    · exact ⟨errors, .inr (.inl hfails)⟩
    · exact ⟨errors, .inr (.inr ⟨listing, _, shows_ofChunk .., hanswers, hlt, hdone⟩)⟩
  · intro hsize pageSize query n hpage hn
    have hlast : d.size ≤ n * pageSize := hn.trans (Nat.le_mul_of_pos_right n hpage)
    refine ⟨?_, ?_⟩
    · rw [flatMap_search hsize]
      exact List.take_of_length_le ((List.length_filter_le ..).trans hlast)
    · exact (Pagination.flatMap_slice hsize pageSize n).trans (List.take_of_length_le hlast)
  · intro page pageSize query r hr
    have hmem : r ∈ d.rooms := by
      rcases hr with hr | hr
      · rw [search_eq] at hr
        exact List.mem_of_mem_filter (Pagination.slice_subset _ _ _ hr)
      · exact Pagination.slice_subset _ _ _ hr
    rw [hd] at hmem
    exact worldReadable_ofChunk hmem

end Directory

/-! A directory of three rooms, one of them hidden, on a homeserver that fails at first. -/

namespace SmallDirectory

def hall : PublicRoom :=
  { roomId := "!hall:hs.one", name := some "The Hall", aliases := ["#hall:hs.one"],
    avatarUrl := some "mxc://hs.two/a/b", worldReadable := true }

def cellar : PublicRoom := { roomId := "!cellar:hs.one", name := some "The cellar" }

def yard : PublicRoom :=
  { roomId := "!yard:hs.one", topic := some "Behind the hall", worldReadable := true }

def homeserver : Homeserver Bool :=
  ⟨fun c s =>
    match c, s with
    | .publicRooms, true => (some (.ok { chunk := [hall, cellar, yard] }), true)
    | _, _ => (some (.error (.http 502)), true)⟩

def refreshed : Directory × Bool × List Answered :=
  Directory.refreshAll homeserver.recorded "https://hs.one" [.update, .load] ({}, false, [])

theorem refreshed_shows : refreshed.1.Shows "https://hs.one" [hall, cellar, yard] ∧
    (List.range 2).flatMap (fun k => refreshed.1.search (k + 1) 1 " HALL ") =
      refreshed.1.rooms.filter (fun r => Directory.Matches " HALL " r) ∧
    (refreshed.1.search 2 1 " HALL ").map (·.roomId) = ["!yard:hs.one"] ∧
    refreshed.1.rooms.map (·.avatarUrl) =
      [some "https://hs.one/_matrix/media/r0/thumbnail/hs.two/a%2Fb?width=60&height=60&method=crop",
        none] := by
  have hrun : Directory.refreshAll homeserver.recorded "https://hs.one" [.update, .load]
      ({}, false, []) = (refreshed.1, refreshed.2.1, refreshed.2.2) := rfl
  obtain ⟨hshows, -, -, -, hpages, -⟩ := Directory.shows_last_listing hrun
  have hlast : lastListing refreshed.2.2 = [hall, cellar, yard] := by decide +kernel
  have hsize : refreshed.1.size = 2 := by decide +kernel
  have hneedle : Directory.needle " HALL " = "hall" := by cbv
  rw [hlast] at hshows
  obtain ⟨hsearch, -⟩ := hpages (hsize ▸ by decide) 1 " HALL " 2 Nat.one_pos hsize.le
  refine ⟨hshows, hsearch, ?_, ?_⟩
  · simp only [Directory.search, hneedle]
    decide +kernel
  · decide +kernel

end SmallDirectory

end RoomReader
