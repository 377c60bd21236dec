import Mathlib
import RoomReader.Proofs.Url.Remote

namespace RoomReader

/-!
# Links to thumbnails

A link to a thumbnail is written as the media host's folder, the path of the thumbnail with the two
parts of the content URI, and a query that ends in what is asked for. There is one for each content
URI, as long as the media host has a path that can be extended.
-/

namespace Url

/-- A URL up to the end of a path, as it is written. -/
def written (u : Url) (path : List String) : String :=
  u.scheme ++ ":" ++ u.authority.elim "" ("//" ++ ·.text) ++ (if u.shielded then "/." else "") ++
    String.join (path.map ("/" ++ ·))

def ownFragment (u : Url) : String := u.fragment.elim "" ("#" ++ ·)

section

variable {u : Url} {path : List String}

theorem text_of_query {q : String} (hpath : u.path = .segments path) (hquery : u.query = some q) :
    u.text = u.written path ++ ("?" ++ q) ++ u.ownFragment := by
  rw [text, written, ownFragment, hpath, hquery, Path.text]
  cases u.authority <;> cases u.fragment <;> rfl

theorem text_addPairs (hpath : u.path = .segments path) (pairs : List (String × String)) :
    (u.addPairs pairs).text =
      u.written path ++ "?" ++ u.ownQuery ++ Form.encodePairs pairs ++ u.ownFragment := by
  rw [addPairs_eq, text_of_query (u := { u with query := some _ }) hpath rfl, ← String.append_assoc,
    ← String.append_assoc]
  rfl

end

end Url

namespace Media

open Url (Part Clean matrix withoutTrailing)

/-- The link to a thumbnail on a media host whose URL has the path `base`. Its path is that of the
host with the thumbnail's put at the end; of a clean content URI it has a segment for each part. -/
def IsThumbnail (u : Url) (base : List String) (c : ContentUri) (asked link : String) : Prop :=
  ∃ path : List String,
    link = u.written path ++ "?" ++ u.ownQuery ++ asked ++ u.ownFragment ∧
    u.extend? ["_matrix", "media", "r0", "thumbnail", c.server, c.mediaId] =
      some { u with path := .segments path } ∧
    (c.IsClean → base ≠ ["", ""] → ∃ server mediaId : String,
      path = withoutTrailing base ++
        ["_matrix", "media", "r0", "thumbnail", server, mediaId] ∧
      (Part.given c.server).SpelledBy server ∧ (Part.given c.mediaId).SpelledBy mediaId)

/-- What is shown for an avatar: for a content URI the link to its thumbnail on the media host, and
nothing for other texts or if the media host is unusable. -/
inductive ShowsAvatar (mediaBase : String) : Option String → Option String → Prop
  | thumbnail {uri link : String} {c : ContentUri} {u : Url} {base : List String}
      (huri : c.IsWritten uri) (hu : Url.parse mediaBase = .ok u) (hbase : u.path = .segments base)
      (hlink : IsThumbnail u base c "width=60&height=60&method=crop" link) :
      ShowsAvatar mediaBase (some uri) (some link)
  | absent {avatar : Option String}
      (h : ∀ uri c u base, avatar = some uri → ContentUri.IsWritten c uri →
        Url.parse mediaBase = .ok u → u.path ≠ .segments base) :
      ShowsAvatar mediaBase avatar none

section

variable {uri mediaBase : String} {c : ContentUri} {u : Url} {base : List String}

/-- Of a clean content URI the path has the segments that it should have. -/
theorem exists_path_eq {path : List String} (hbase : u.path = .segments base)
    (hext : u.extend? (segments "thumbnail" c) = some { u with path := .segments path })
    (hclean : c.IsClean) (htwo : base ≠ ["", ""]) :
    ∃ server mediaId : String,
      path = withoutTrailing base ++ ["_matrix", "media", "r0", "thumbnail", server, mediaId] ∧
      (Part.given c.server).SpelledBy server ∧ (Part.given c.mediaId).SpelledBy mediaId := by
  have hparts : ∀ part ∈ parts thumbnail c, Clean part.text :=
    Part.forall_clean_iff.2 (forall_given_parts.2 hclean)
  have hext' : u.extend? (matrix.1 :: (parts thumbnail c).map Part.text) =
      some { u with path := .segments path } := hext
  obtain ⟨written, hpath, hspelled⟩ := (Url.namesExactly_iff hbase hext').2 ⟨hparts, htwo⟩
  obtain _ | ⟨rfl, _ | ⟨rfl, _ | ⟨rfl, _ | ⟨rfl, _ | ⟨hserver, _ | ⟨hmedia, _ | _⟩⟩⟩⟩⟩⟩ := hspelled
  exact ⟨_, _, Url.Path.segments.inj hpath, hserver, hmedia⟩

theorem exists_isThumbnail (hu : Url.parse mediaBase = .ok u) (hbase : u.path = .segments base)
    (huri : ContentUri.parse? uri = some c) (width height : Nat) (method : String) :
    ∃ link, thumbnail? uri mediaBase width height method = some link ∧
      IsThumbnail u base c (Form.encodePairs
        [("width", toString width), ("height", toString height), ("method", method)]) link := by
  obtain ⟨path, hext⟩ := Url.exists_extend?_eq hbase (segments "thumbnail" c)
  have hlink := (link?_eq hu "thumbnail" c).trans hext
  exact ⟨_, thumbnail?_eq huri hlink width height method, path, Url.text_addPairs rfl _, hext,
    exists_path_eq hbase hext⟩

theorem thumbnail?_eq_none (width height : Nat) (method : String)
    (h : ∀ c u base, ContentUri.IsWritten c uri → Url.parse mediaBase = .ok u →
      u.path ≠ .segments base) : thumbnail? uri mediaBase width height method = none := by
  unfold thumbnail?
  cases huri : ContentUri.parse? uri with
  | none => rfl
  | some c =>
      have hlink : link? mediaBase "thumbnail" c = none := by
        cases hu : Url.parse mediaBase with
        | error e =>
            rw [link?, hu]
            rfl
        | ok u =>
            cases hpath : u.path with
            | rootless text => simp only [link?_eq hu, Url.extend?, hpath]
            | segments base =>
                exact absurd hpath (h c u base (ContentUri.isWritten_of_parse? huri) hu)
      simp [hlink]

/-- For every avatar the small thumbnail is what should be shown. -/
theorem showsAvatar_thumbnail? (mediaBase : String) (avatar : Option String) :
    ShowsAvatar mediaBase avatar (avatar.bind (thumbnail? · mediaBase 60 60 "crop")) := by
  by_cases h : ∀ uri c u base, avatar = some uri → ContentUri.IsWritten c uri →
      Url.parse mediaBase = .ok u → u.path ≠ .segments base
  · have hnone : avatar.bind (thumbnail? · mediaBase 60 60 "crop") = none := by
      cases avatar with
      | none => rfl
      | some uri => exact thumbnail?_eq_none 60 60 "crop" fun c u base => h uri c u base rfl
    rw [hnone]
    exact .absent h
  · push Not at h
    obtain ⟨uri, c, u, base, rfl, hwritten, hu, hbase⟩ := h
    obtain ⟨link, hlink, hthumbnail⟩ := exists_isThumbnail hu hbase hwritten.parse?_eq 60 60 "crop"
    have hasked : Form.encodePairs
        [("width", toString 60), ("height", toString 60), ("method", "crop")] =
          "width=60&height=60&method=crop" := by decide +kernel
    rw [hasked] at hthumbnail
    rw [Option.bind_some, hlink]
    exact .thumbnail hwritten hu hbase hthumbnail

end

end Media

end RoomReader
