import Mathlib
import RoomReader.Homeserver.Client
import RoomReader.Media
import RoomReader.Proofs.Url.Extension

namespace RoomReader

/-!
# What a remote URL names

Calls and media links put rooms, aliases and content URIs into the folder of a base URL. The path
names exactly what was given if the given texts are clean, and only then; and what differs in clean
texts has different URLs.
-/

namespace Url

/-- The fixed parts of all paths. -/
def words : List String :=
  ["_matrix", "client", "r0", "rooms", "initialSync", "messages", "publicRooms", "directory",
    "room", "media", "download", "thumbnail"]

/-- A character of a word: not a dot, and neither coded nor left out. -/
def isWordChar (c : Char) : Bool :=
  c.toNat < 0x80 && c != '.' && !isIgnored c && !segmentSet true (UInt8.ofNat c.toNat)
    && !segmentSet false (UInt8.ofNat c.toNat)

theorem isWord_of_all {text : String} (hne : text ≠ "")
    (hall : text.toList.all isWordChar = true) : IsWord text := by
  have hchar (c : Char) (hc : c ∈ text.toList) : c.toNat < 0x80 ∧ c ≠ '.' ∧ isIgnored c = false ∧
      ∀ special, segmentSet special (UInt8.ofNat c.toNat) = false := by
    have hword := List.all_eq_true.1 hall c hc
    simp only [isWordChar, Bool.and_eq_true, decide_eq_true_eq, bne_iff_ne,
      Bool.not_eq_true'] at hword
    obtain ⟨⟨⟨⟨hascii, hdot⟩, hkept⟩, htrue⟩, hfalse⟩ := hword
    exact ⟨hascii, hdot, hkept, fun special => by cases special <;> assumption⟩
  have hcoded (special : Bool) : coded special text = text :=
    Percent.encode_eq_self fun c hc => ⟨(hchar c hc).1, (hchar c hc).2.2.2 special⟩
  refine ⟨hne, ⟨?_, ?_, fun c hc => (hchar c hc).2.2.1⟩, hcoded true, hcoded false⟩
  · rintro rfl
    exact (hchar '.' (by decide)).2.1 rfl
  · rintro rfl
    exact (hchar '.' (by decide)).2.1 rfl

theorem isWord_of_mem {text : String} (h : text ∈ words) : IsWord text := by
  have hall : words.all (fun text => text != "" && text.toList.all isWordChar) = true := by
    decide +kernel
  have hword := List.all_eq_true.1 hall text h
  rw [Bool.and_eq_true, bne_iff_ne] at hword
  exact isWord_of_all hword.1 hword.2

def Word.of (text : String) (h : text ∈ words) : Word := ⟨text, isWord_of_mem h⟩

def Part.word (text : String) (h : text ∈ words) : Part := .fixed (.of text h)

def matrix : Word := .of "_matrix" (by decide)

end Url

open Url (Part Clean Word matrix)

/-! ## Calls -/

namespace Call

/-- The path of a call, without its first part. -/
def parts : Call → List Part
  | sync room _ =>
    [.word "client" (by decide), .word "r0" (by decide), .word "rooms" (by decide), .given room,
      .word "initialSync" (by decide)]
  | messages room _ _ _ =>
    [.word "client" (by decide), .word "r0" (by decide), .word "rooms" (by decide), .given room,
      .word "messages" (by decide)]
  | publicRooms =>
    [.word "client" (by decide), .word "r0" (by decide), .word "publicRooms" (by decide)]
  | resolveAlias roomAlias =>
    [.word "client" (by decide), .word "r0" (by decide), .word "directory" (by decide),
      .word "room" (by decide), .given roomAlias]

def IsClean (call : Call) : Prop := ∀ text, Part.given text ∈ call.parts → Clean text

theorem map_text_parts (call : Call) :
    matrix.1 :: call.parts.map Part.text = HomeserverClient.interface ++ call.segments := by
  cases call <;> rfl

theorem IsClean.forall_text {call : Call} (h : call.IsClean) :
    ∀ text ∈ call.parts.map Part.text, Clean text :=
  List.forall_mem_map.2 (Part.forall_clean_iff.2 h)

end Call

namespace HomeserverClient

variable {c : HomeserverClient} {base : List String} {call call' : Call}

theorem extended_url (hbase : c.base.path = .segments base) (call : Call) :
    c.base.Extended (matrix.1 :: call.parts.map Part.text) (c.url call) := by
  obtain ⟨v, hext, hv⟩ := Url.exists_extended hbase (interface ++ call.segments)
  rw [Call.map_text_parts, url, hext, Option.getD_some]
  split
  · exact hv
  · exact hv.addPairs call.query

theorem segments_eq_of_text_eq (hbase : c.base.path = .segments base) (h : call.IsClean)
    (h' : call'.IsClean) (htext : (c.url call).text = (c.url call').text) :
    call.segments = call'.segments := by
  have hsame := (extended_url hbase call).texts_eq hbase (extended_url hbase call') h.forall_text
    h'.forall_text htext
  refine List.append_cancel_left (?_ : interface ++ _ = interface ++ _)
  rw [← Call.map_text_parts, ← Call.map_text_parts, hsame]

end HomeserverClient

/-! ## Media links -/

namespace Media

def ContentUri.IsClean (c : ContentUri) : Prop := Clean c.server ∧ Clean c.mediaId

instance (c : ContentUri) : Decidable c.IsClean := inferInstanceAs (Decidable (_ ∧ _))

def download : Word := .of "download" (by decide)

def thumbnail : Word := .of "thumbnail" (by decide)

/-- The path of a link, without its first part. -/
def parts (kind : Word) (c : ContentUri) : List Part :=
  [.word "media" (by decide), .word "r0" (by decide), .fixed kind, .given c.server,
    .given c.mediaId]

section

variable {uri mediaBase : String} {c c' : ContentUri} {u link link' : Url} {base : List String}
  {kind : Word}

/-- A content URI as it is written: no part is empty, and the server ends at the first slash. -/
structure ContentUri.IsWritten (c : ContentUri) (uri : String) : Prop where
  eq : uri = "mxc://" ++ c.server ++ "/" ++ c.mediaId
  server_ne : c.server ≠ ""
  slash_notMem : '/' ∉ c.server.toList
  mediaId_ne : c.mediaId ≠ ""

theorem ContentUri.isWritten_of_parse? (h : ContentUri.parse? uri = some c) : c.IsWritten uri := by
  unfold ContentUri.parse? at h
  split at h
  · rename_i rest huri
    dsimp only at h
    split at h
    · cases h
    · rename_i hparts
      rw [Bool.or_eq_true, not_or, List.isEmpty_iff, List.isEmpty_iff] at hparts
      obtain rfl := Option.some.inj h
      -- What follows the server starts with the slash at which the server ended.
      have hslash : rest.dropWhile (· ≠ '/') = '/' :: (rest.dropWhile (· ≠ '/')).drop 1 := by
        have hhead := List.head?_dropWhile_not (fun c => decide (c ≠ '/')) rest
        cases hdrop : rest.dropWhile (· ≠ '/') with
        | nil =>
            rw [hdrop] at hparts
            exact absurd rfl hparts.2
        | cons c rest =>
            rw [hdrop] at hhead
            obtain rfl : c = '/' := by simpa using hhead
            rfl
      have hrest : rest = rest.takeWhile (· ≠ '/') ++ '/' :: (rest.dropWhile (· ≠ '/')).drop 1 := by
        rw [← hslash, List.takeWhile_append_dropWhile]
      constructor
      · rw [← String.toList_inj, huri]
        simp only [String.toList_append, String.toList_ofList, List.append_assoc]
        exact congrArg ("mxc://".toList ++ ·) hrest
      · exact mt String.ofList_eq_empty_iff.1 hparts.1
      · intro hmem
        rw [String.toList_ofList] at hmem
        simpa using List.mem_takeWhile_imp hmem
      · exact mt String.ofList_eq_empty_iff.1 hparts.2
  · cases h

theorem ContentUri.IsWritten.parse?_eq (h : c.IsWritten uri) : ContentUri.parse? uri = some c := by
  obtain ⟨rfl, hserver, hslash, hmedia⟩ := h
  have hchars : ("mxc://" ++ c.server ++ "/" ++ c.mediaId).toList =
      'm' :: 'x' :: 'c' :: ':' :: '/' :: '/' :: (c.server.toList ++ '/' :: c.mediaId.toList) := by
    simp
  have hall : ∀ ch ∈ c.server.toList, decide (ch ≠ '/') = true := by
    intro ch hch
    rw [decide_eq_true_iff]
    rintro rfl
    exact hslash hch
  have htake : (c.server.toList ++ '/' :: c.mediaId.toList).takeWhile (· ≠ '/') =
      c.server.toList := by
    rw [List.takeWhile_append_of_pos hall, List.takeWhile_cons_of_neg (by simp), List.append_nil]
  have hdrop : (c.server.toList ++ '/' :: c.mediaId.toList).dropWhile (· ≠ '/') =
      '/' :: c.mediaId.toList := by
    rw [List.dropWhile_append_of_pos hall, List.dropWhile_cons_of_neg (by simp)]
  unfold ContentUri.parse?
  rw [hchars]
  split
  · rename_i rest hrest
    obtain rfl : c.server.toList ++ '/' :: c.mediaId.toList = rest := by simpa using hrest
    dsimp only
    rw [htake, hdrop, if_neg (by simp [hserver, hmedia])]
    simp
  · rename_i hother
    exact absurd rfl (hother _)

theorem forall_given_parts :
    (∀ text, Part.given text ∈ parts kind c → Clean text) ↔ c.IsClean := by
  simp [parts, Part.word, ContentUri.IsClean]

theorem link?_eq (hu : Url.parse mediaBase = .ok u) (kind : String) (c : ContentUri) :
    link? mediaBase kind c = u.extend? (segments kind c) := by
  rw [link?, hu]
  rfl

theorem download?_eq (h : ContentUri.parse? uri = some c)
    (hlink : link? mediaBase "download" c = some link) :
    download? uri mediaBase = some link.text := by
  simp only [download?, h, Option.bind_eq_bind, Option.bind_some, hlink]
  rfl

theorem thumbnail?_eq (h : ContentUri.parse? uri = some c)
    (hlink : link? mediaBase "thumbnail" c = some link) (width height : Nat) (method : String) :
    thumbnail? uri mediaBase width height method = some (link.addPairs
      [("width", toString width), ("height", toString height), ("method", method)]).text := by
  simp only [thumbnail?, h, Option.bind_eq_bind, Option.bind_some, hlink]
  rfl

theorem exists_link (kind : Word) (c : ContentUri)
    (hu : Url.parse mediaBase = .ok u) (hbase : u.path = .segments base) :
    ∃ link, link? mediaBase kind c = some link ∧
      u.Extended (matrix.1 :: (parts kind c).map Part.text) link := by
  obtain ⟨link, hlink, hextended⟩ := Url.exists_extended hbase (segments kind c)
  exact ⟨link, (link?_eq hu kind c).trans hlink, hextended⟩

theorem exists_download (hu : Url.parse mediaBase = .ok u) (hbase : u.path = .segments base)
    (h : ContentUri.parse? uri = some c) :
    ∃ link : Url, download? uri mediaBase = some link.text ∧
      u.Extended (matrix.1 :: (parts download c).map Part.text) link := by
  obtain ⟨link, hlink, hextended⟩ := exists_link download c hu hbase
  exact ⟨link, download?_eq h hlink, hextended⟩

theorem exists_thumbnail (hu : Url.parse mediaBase = .ok u) (hbase : u.path = .segments base)
    (h : ContentUri.parse? uri = some c) (width height : Nat) (method : String) :
    ∃ link : Url, thumbnail? uri mediaBase width height method = some link.text ∧
      u.Extended (matrix.1 :: (parts thumbnail c).map Part.text) link := by
  obtain ⟨link, hlink, hextended⟩ := exists_link thumbnail c hu hbase
  exact ⟨_, thumbnail?_eq h hlink width height method, hextended.addPairs _⟩

theorem namesExactly_iff (hbase : u.path = .segments base)
    (h : u.Extended (matrix.1 :: (parts kind c).map Part.text) link) :
    link.NamesExactly base (.fixed matrix :: parts kind c) ↔ c.IsClean ∧ base ≠ ["", ""] := by
  rw [h.namesExactly_iff hbase, forall_given_parts]

theorem eq_of_text_eq (hbase : u.path = .segments base)
    (h : u.Extended (matrix.1 :: (parts kind c).map Part.text) link)
    (h' : u.Extended (matrix.1 :: (parts kind c').map Part.text) link') (hclean : c.IsClean)
    (hclean' : c'.IsClean) (htext : link.text = link'.text) : c = c' := by
  have hforall {c : ContentUri} (hclean : c.IsClean) :
      ∀ text ∈ (parts kind c).map Part.text, Clean text :=
    List.forall_mem_map.2 (Part.forall_clean_iff.2 (forall_given_parts.2 hclean))
  have hsame := h.texts_eq hbase h' (hforall hclean) (hforall hclean') htext
  simp only [parts, List.map_cons, List.cons.injEq, Part.text] at hsame
  obtain ⟨-, -, -, hserver, hmedia, -⟩ := hsame
  cases c
  cases c'
  exact ContentUri.mk.injEq .. |>.mpr ⟨hserver, hmedia⟩

end

end Media

/-- Each call, and each link to what a content URI names, is to the base URL's folder, with one
segment for each part, exactly if what was given is clean and the base is not two slashes. What is
given cleanly is told by the URL. -/
theorem remote_url_names_exactly_iff (base : List String) :
    (∀ client : HomeserverClient, client.base.path = .segments base →
      ∀ call : Call,
        ((client.url call).NamesExactly base (.fixed matrix :: call.parts) ↔
          call.IsClean ∧ base ≠ ["", ""]) ∧
        ∀ call' : Call, call.IsClean → call'.IsClean → call.segments ≠ call'.segments →
          (client.url call).text ≠ (client.url call').text) ∧
    ∀ (mediaBase : String) (u : Url), Url.parse mediaBase = .ok u → u.path = .segments base →
      ∀ (uri : String) (c : Media.ContentUri), Media.ContentUri.parse? uri = some c →
        uri = "mxc://" ++ c.server ++ "/" ++ c.mediaId ∧
        (∃ link : Url, Media.download? uri mediaBase = some link.text ∧
          (link.NamesExactly base (.fixed matrix :: Media.parts Media.download c) ↔
            c.IsClean ∧ base ≠ ["", ""])) ∧
        (∀ width height method, ∃ link : Url,
          Media.thumbnail? uri mediaBase width height method = some link.text ∧
          (link.NamesExactly base (.fixed matrix :: Media.parts Media.thumbnail c) ↔
            c.IsClean ∧ base ≠ ["", ""])) ∧
        ∀ (uri' : String) (c' : Media.ContentUri), Media.ContentUri.parse? uri' = some c' →
          c.IsClean → c'.IsClean → uri ≠ uri' →
            Media.download? uri mediaBase ≠ Media.download? uri' mediaBase ∧
            ∀ width height method width' height' method',
              Media.thumbnail? uri mediaBase width height method ≠
                Media.thumbnail? uri' mediaBase width' height' method' := by
  constructor
  · intro client hbase call
    refine ⟨(HomeserverClient.extended_url hbase call).namesExactly_iff hbase, ?_⟩
    intro call' hclean hclean' hne htext
    exact hne (HomeserverClient.segments_eq_of_text_eq hbase hclean hclean' htext)
  · intro mediaBase u hu hbase uri c huri
    have hwritten := Media.ContentUri.isWritten_of_parse? huri
    obtain ⟨link, hdownload, hlink⟩ := Media.exists_download hu hbase huri
    refine ⟨hwritten.eq, ⟨link, hdownload, ?_⟩, ?_, ?_⟩
    · exact Media.namesExactly_iff hbase hlink
    · intro width height method
      obtain ⟨link, hthumbnail, hlink⟩ := Media.exists_thumbnail hu hbase huri width height method
      exact ⟨link, hthumbnail, Media.namesExactly_iff hbase hlink⟩
    · intro uri' c' huri' hclean hclean' hne
      have hparts : c ≠ c' := by
        rintro rfl
        exact hne (hwritten.eq.trans (Media.ContentUri.isWritten_of_parse? huri').eq.symm)
      constructor
      · intro hsame
        obtain ⟨link', hdownload', hlink'⟩ := Media.exists_download hu hbase huri'
        rw [hdownload, hdownload', Option.some.injEq] at hsame
        exact hparts (Media.eq_of_text_eq hbase hlink hlink' hclean hclean' hsame)
      · intro width height method width' height' method' hsame
        obtain ⟨link, hthumbnail, hlink⟩ := Media.exists_thumbnail hu hbase huri width height method
        obtain ⟨link', hthumbnail', hlink'⟩ :=
          Media.exists_thumbnail hu hbase huri' width' height' method'
        rw [hthumbnail, hthumbnail', Option.some.injEq] at hsame
        exact hparts (Media.eq_of_text_eq hbase hlink hlink' hclean hclean' hsame)

namespace SmallMedia

/-- A homeserver at `https://hs.one`. -/
def client : HomeserverClient :=
  ⟨{ scheme := "https", authority := some { host := .domain "hs.one" }, path := .segments [""] },
    none⟩

theorem parse_base : Url.parse "https://hs.one" = .ok client.base := by decide +kernel

/-- A slash, a question mark and two dots in what is given are kept in one segment. -/
theorem mark_is_named :
    (client.url (.resolveAlias "#a/..?b")).NamesExactly [""]
        (.fixed matrix :: (Call.resolveAlias "#a/..?b").parts) ∧
      (client.url (.resolveAlias "#a/..?b")).text ≠ (client.url (.resolveAlias "#a/..")).text ∧
      (∃ link : Url, Media.download? "mxc://hs.one/a/..?b" "https://hs.one" = some link.text ∧
        link.NamesExactly [""]
          (.fixed matrix :: Media.parts Media.download ⟨"hs.one", "a/..?b"⟩)) ∧
      Media.download? "mxc://hs.one/a/..?b" "https://hs.one" ≠
        Media.download? "mxc://hs.one/a/.." "https://hs.one" := by
  have hcall (text : String) (h : Clean text) : (Call.resolveAlias text).IsClean := by
    intro given hgiven
    simp only [Call.parts, Url.Part.word, List.mem_cons, reduceCtorEq, Part.given.injEq,
      List.not_mem_nil, or_false, false_or] at hgiven
    exact hgiven ▸ h
  have hmark : Clean "#a/..?b" ∧ Clean "#a/.." := by decide +kernel
  have huri : Media.ContentUri.parse? "mxc://hs.one/a/..?b" = some ⟨"hs.one", "a/..?b"⟩ := by
    decide +kernel
  have huri' : Media.ContentUri.parse? "mxc://hs.one/a/.." = some ⟨"hs.one", "a/.."⟩ := by
    decide +kernel
  have hclean : Media.ContentUri.IsClean ⟨"hs.one", "a/..?b"⟩ ∧
      Media.ContentUri.IsClean ⟨"hs.one", "a/.."⟩ := by decide +kernel
  have hbase : client.base.path = .segments [""] ∧ [""] ≠ ["", ""] := ⟨rfl, by simp⟩
  obtain ⟨hcalls, hlinks⟩ := remote_url_names_exactly_iff [""]
  obtain ⟨hnames, hdiffer⟩ := hcalls client hbase.1 (.resolveAlias "#a/..?b")
  obtain ⟨-, ⟨link, hlink, hlinkNames⟩, -, hlinkDiffer⟩ :=
    hlinks "https://hs.one" client.base parse_base hbase.1 _ _ huri
  refine ⟨hnames.2 ⟨hcall _ hmark.1, hbase.2⟩, ?_, ⟨link, hlink, ?_⟩, ?_⟩
  · exact hdiffer (.resolveAlias "#a/..") (hcall _ hmark.1) (hcall _ hmark.2) (by decide +kernel)
  · exact hlinkNames.2 ⟨hclean.1, hbase.2⟩
  · exact (hlinkDiffer _ _ huri' hclean.1 hclean.2 (by decide +kernel)).1

/-- Two content URIs share their links, an alias leaves no segment, and another one leads back to
the folder above. -/
theorem tab_is_lost :
    (Media.ContentUri.parse? "mxc://hs.one/a\tb").isSome ∧
      (Media.ContentUri.parse? "mxc://hs.one/ab").isSome ∧
      Media.download? "mxc://hs.one/a\tb" "https://hs.one" =
        Media.download? "mxc://hs.one/ab" "https://hs.one" ∧
      Media.thumbnail? "mxc://hs.one/a\tb" "https://hs.one" 60 60 "crop" =
        Media.thumbnail? "mxc://hs.one/ab" "https://hs.one" 60 60 "crop" ∧
      (client.url (.resolveAlias ".")).path =
        .segments ["_matrix", "client", "r0", "directory", "room"] ∧
      (client.url (.resolveAlias ".\t.")).path =
        .segments ["_matrix", "client", "r0", "directory", ""] := by
  decide +kernel

end SmallMedia

end RoomReader
