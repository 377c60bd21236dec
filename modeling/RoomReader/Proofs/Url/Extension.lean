import Mathlib
import RoomReader.Proofs.Text.Lowercase
import RoomReader.Proofs.Text.Percent
import RoomReader.Url.Basic

namespace RoomReader.Url

/-!
# Paths that are extended

A text that is put at the end of a path becomes one segment that spells it, unless it is a dot or
two dots or has a tab or a line end in it. Such texts are left out, lose characters, or lead back to
the enclosing folder, so the path then spells something else.
-/

/-- A text that nothing is left out of and that leads nowhere else. -/
def Clean (text : String) : Prop :=
  text ≠ "." ∧ text ≠ ".." ∧ ∀ c ∈ text.toList, isIgnored c = false

instance (text : String) : Decidable (Clean text) :=
  decidable_of_iff (text ≠ "." ∧ text ≠ ".." ∧ text.toList.all (! isIgnored ·) = true)
    (by simp [Clean])

def segmentSet (special : Bool) : Percent.EncodeSet :=
  if special then Percent.specialPathSegment else Percent.pathSegment

def coded (special : Bool) (text : String) : String := Percent.encode (segmentSet special) text

/-- What a URL leaves of a text. -/
def plain (text : String) : String := String.ofList (text.toList.filter (! isIgnored ·))

/-! ## Dots -/

section

variable {segment text : String} {special : Bool}

theorem toLower_eq_iff : ∀ c : Char, (c.toLower = '.' ↔ c = '.') ∧ (c.toLower = '%' ↔ c = '%') ∧
    (c.toLower = '2' ↔ c = '2') ∧ (c.toLower = 'e' ↔ c = 'e' ∨ c = 'E') := by
  refine Lowercase.forall_of_upper (fun c h => ?_) (by decide +kernel)
  rw [h]
  refine ⟨.rfl, .rfl, .rfl, .inl, ?_⟩
  rintro (h' | rfl)
  · exact h'
  · exact absurd h (by decide)

theorem decodeText?_of_toList {cs : List Char} (h : segment.toList = cs)
    (hascii : cs.all (·.toNat < 0x80) = true)
    (ht : Percent.decode (Ascii.bytes cs) = Utf8.encode text) :
    Percent.decodeText? segment = some text := by
  have hbytes : Utf8.encode segment = Ascii.bytes cs := by
    rw [← String.ofList_toList (s := segment), h]
    exact Utf8.encode_ofList fun c hc => of_decide_eq_true (List.all_eq_true.1 hascii c hc)
  rw [Percent.decodeText?, hbytes, ht, Utf8.decode?_encode]

theorem decodeText?_of_isSingleDot (h : isSingleDot segment = true) :
    Percent.decodeText? segment = some "." := by
  have hplain : ".".toList = ['.'] := rfl
  have hcoded : "%2e".toList = ['%', '2', 'e'] := rfl
  simp [isSingleDot, ← String.toList_inj, hplain, hcoded, List.map_eq_cons_iff, toLower_eq_iff] at h
  rcases h with h | ⟨e, h, rfl | rfl⟩
  · exact decodeText?_of_toList h rfl rfl
  · exact decodeText?_of_toList h rfl rfl
  · exact decodeText?_of_toList h rfl rfl

theorem decodeText?_of_isDoubleDot (h : isDoubleDot segment = true) :
    Percent.decodeText? segment = some ".." := by
  have hplain : "..".toList = ['.', '.'] := rfl
  have hright : ".%2e".toList = ['.', '%', '2', 'e'] := rfl
  have hleft : "%2e.".toList = ['%', '2', 'e', '.'] := rfl
  have hboth : "%2e%2e".toList = ['%', '2', 'e', '%', '2', 'e'] := rfl
  simp [isDoubleDot, ← String.toList_inj, hplain, hright, hleft, hboth, List.map_eq_cons_iff,
    toLower_eq_iff] at h
  rcases h with h | ⟨e, h, rfl | rfl⟩ | ⟨e, h, rfl | rfl⟩ | ⟨e, f, h, rfl | rfl, rfl | rfl⟩ <;>
    exact decodeText?_of_toList h rfl rfl

/-! ## One segment -/

theorem segmentSet_of_mem {b : UInt8} (hb : b ∈ [0x25, 0x2F, 0x3F, 0x23]) (special : Bool) :
    segmentSet special b = true := by
  have hboth : ([0x25, 0x2F, 0x3F, 0x23] : Bytes).all
      fun b => segmentSet true b && segmentSet false b := by decide
  have hset := List.all_eq_true.1 hboth b hb
  rw [Bool.and_eq_true] at hset
  cases special
  · exact hset.2
  · exact hset.1

theorem decodeText?_coded (special : Bool) (text : String) :
    Percent.decodeText? (coded special text) = some text :=
  Percent.decodeText?_encode (segmentSet_of_mem (by decide) special) text

theorem coded_injective (special : Bool) : Function.Injective (coded special) := by
  intro text text' h
  have hdecode := decodeText?_coded special text
  rw [h, decodeText?_coded] at hdecode
  exact (Option.some.inj hdecode).symm

theorem notMem_coded {c : Char} (hc : c ∈ ['/', '?', '#']) (special : Bool) (text : String) :
    c ∉ (coded special text).toList := by
  have hset : ['/', '?', '#'].all fun c =>
      ([0x25, 0x2F, 0x3F, 0x23] : Bytes).contains (UInt8.ofNat c.toNat) &&
        !"%0123456789ABCDEF".toList.contains c := by decide
  have hc := List.all_eq_true.1 hset c hc
  rw [Bool.and_eq_true, Bool.not_eq_true'] at hc
  exact Percent.notMem_encode (segmentSet_of_mem (List.contains_iff_mem.1 hc.1) special)
    (Percent.notMem_encodeByte hc.2) text

theorem plain_eq_self_iff : plain text = text ↔ ∀ c ∈ text.toList, isIgnored c = false := by
  rw [plain, ← String.toList_inj, String.toList_ofList, List.filter_eq_self]
  simp

theorem pushSegment_eq (special : Bool) (segments : List String) (text : String) :
    pushSegment special segments text =
      if text = "." ∨ text = ".." then segments
      else appendSegment (asFolder segments) (coded special (plain text)) true := rfl

theorem pushSegment_of_clean (h : Clean text) (special : Bool) (segments : List String) :
    pushSegment special segments text = asFolder segments ++ [coded special text] := by
  obtain ⟨hsingle, hdouble, hkept⟩ := h
  have hnotDouble : ¬ isDoubleDot (coded special text) = true := by
    intro hdots
    have hdecode := decodeText?_of_isDoubleDot hdots
    rw [decodeText?_coded] at hdecode
    exact hdouble (Option.some.inj hdecode)
  have hnotSingle : ¬ isSingleDot (coded special text) = true := by
    intro hdot
    have hdecode := decodeText?_of_isSingleDot hdot
    rw [decodeText?_coded] at hdecode
    exact hsingle (Option.some.inj hdecode)
  rw [pushSegment_eq, if_neg (not_or.2 ⟨hsingle, hdouble⟩), plain_eq_self_iff.2 hkept,
    appendSegment, if_neg hnotDouble, if_neg hnotSingle]

theorem length_asFolder_le (segments : List String) :
    (asFolder segments).length ≤ segments.length := by
  unfold asFolder
  split
  · exact Nat.zero_le _
  · exact Nat.le_refl _

theorem length_shorten_le (segments : List String) :
    (shorten segments).length ≤ segments.length := by
  unfold shorten
  split
  · exact Nat.zero_le _
  · split
    · exact Nat.le_refl _
    · exact (List.dropLast_sublist segments).length_le

theorem length_pushSegment_le (special : Bool) (segments : List String) (text : String) :
    (pushSegment special segments text).length ≤ segments.length + 1 := by
  have hfolder := length_asFolder_le segments
  have hshorten := length_shorten_le (asFolder segments)
  rw [pushSegment_eq, appendSegment]
  split
  · exact Nat.le_succ _
  · split
    · rw [if_pos rfl, List.length_append, List.length_singleton]
      omega
    · split
      · rw [if_pos rfl, List.length_append, List.length_singleton]
        omega
      · rw [List.length_append, List.length_singleton]
        omega

/-- A text that is spelled by the last segment, at a path that is longer by that segment, is
clean. -/
theorem clean_of_pushSegment {segments folder : List String}
    (h : pushSegment special segments text = folder ++ [segment])
    (hlength : segments.length ≤ folder.length)
    (hspells : Percent.decodeText? segment = some text) :
    Clean text ∧ asFolder segments = folder := by
  have hempty {before : List String} (h : before ++ [""] = folder ++ [segment]) : text = "" := by
    obtain rfl : "" = segment := List.singleton_inj.1 (List.append_inj_right' h rfl)
    exact (Option.some.inj hspells).symm
  have hdots : isDoubleDot (coded special (plain "")) = false ∧
      isSingleDot (coded special (plain "")) = false := by
    cases special <;> decide +kernel
  rw [pushSegment_eq] at h
  split at h
  · -- The text was passed over, so the path is not longer.
    have hshort := congrArg List.length h
    rw [List.length_append, List.length_singleton] at hshort
    omega
  · rename_i hne
    rw [appendSegment] at h
    split at h
    · -- The path leads to the enclosing folder and ends in an empty segment.
      rename_i hdouble
      rw [if_pos rfl] at h
      rw [hempty h, hdots.1] at hdouble
      cases hdouble
    · split at h
      · rename_i hsingle
        rw [if_pos rfl] at h
        rw [hempty h, hdots.2] at hsingle
        cases hsingle
      · obtain ⟨hfolder, hsegment⟩ := List.append_inj' h rfl
        rw [← List.singleton_inj.1 hsegment, decodeText?_coded] at hspells
        rw [not_or] at hne
        exact ⟨⟨hne.1, hne.2, plain_eq_self_iff.1 (Option.some.inj hspells)⟩, hfolder⟩

end

/-! ## One segment after another -/

theorem concat_eq_root_iff {before : List String} {last : String} :
    before ++ [last] = [""] ↔ before = [] ∧ last = "" := by
  cases before <;> simp

section

variable {special : Bool} {segments folder texts written : List String}

theorem length_foldl_pushSegment_le (special : Bool) (texts segments : List String) :
    (texts.foldl (pushSegment special) segments).length ≤ segments.length + texts.length := by
  induction texts generalizing segments with
  | nil => exact Nat.le_refl _
  | cons text texts ih =>
      have hpush := length_pushSegment_le special segments text
      have hrest := ih (pushSegment special segments text)
      rw [List.foldl_cons, List.length_cons]
      omega

theorem foldl_pushSegment_of_clean (hne : segments ≠ []) (hroot : segments ≠ [""])
    (h : ∀ text ∈ texts, Clean text) :
    texts.foldl (pushSegment special) segments = segments ++ texts.map (coded special) := by
  induction texts generalizing segments with
  | nil => exact (List.append_nil _).symm
  | cons text texts ih =>
      obtain ⟨htext, hrest⟩ := List.forall_mem_cons.1 h
      have hfolder : asFolder segments = segments := if_neg hroot
      rw [List.foldl_cons, pushSegment_of_clean htext, hfolder, ih (by simp) ?_ hrest,
        List.append_assoc, List.map_cons]
      · rfl
      · intro hone
        exact hne (concat_eq_root_iff.1 hone).1

/-- Where each text is spelled by a segment of its own, each is clean. -/
theorem clean_of_foldl_pushSegment (hne : segments ≠ [])
    (h : texts.foldl (pushSegment special) segments = segments ++ written)
    (hspells : List.Forall₂ (fun segment text => Percent.decodeText? segment = some text)
      written texts) :
    ∀ text ∈ texts, Clean text := by
  induction texts using List.reverseRecOn generalizing written with
  | nil => nofun
  | append_singleton texts text ih =>
      have hbefore := List.forall₂_take_append _ _ _ hspells
      have hlast := List.forall₂_drop_append _ _ _ hspells
      obtain ⟨segment, rest, htext, hnil, hdrop⟩ := List.forall₂_cons_right_iff.1 hlast
      rw [List.forall₂_nil_right_iff.1 hnil] at hdrop
      have hlength := length_foldl_pushSegment_le special texts segments
      rw [List.foldl_concat, ← List.take_append_drop texts.length written, hdrop,
        ← List.append_assoc] at h
      have hbound : (texts.foldl (pushSegment special) segments).length ≤
          (segments ++ written.take texts.length).length := by
        rw [List.length_append, hbefore.length_eq]
        exact hlength
      obtain ⟨hclean, hfolder⟩ := clean_of_pushSegment h hbound htext
      -- The root is no folder of anything, so it does not come up here.
      have hsame : texts.foldl (pushSegment special) segments =
          segments ++ written.take texts.length := by
        unfold asFolder at hfolder
        split at hfolder
        · exact absurd (List.append_eq_nil_iff.1 hfolder.symm).1 hne
        · exact hfolder
      rw [List.forall_mem_append]
      exact ⟨ih hsame hbefore, List.forall_mem_singleton.2 hclean⟩

/-! ## The folder that is extended -/

/-- The segments without one empty segment at the end. -/
def withoutTrailing (segments : List String) : List String :=
  if segments.getLast? = some "" then segments.dropLast else segments

theorem asFolder_popIfEmpty (h : segments ≠ ["", ""]) :
    asFolder (popIfEmpty segments) = withoutTrailing segments := by
  induction segments using List.reverseRecOn with
  | nil => rfl
  | append_singleton before last _ =>
      unfold popIfEmpty withoutTrailing
      rw [List.getLast?_concat, List.dropLast_concat]
      by_cases hlast : last = ""
      · subst hlast
        by_cases hbefore : before = []
        · subst hbefore
          rfl
        · have hroot : before ≠ [""] := by
            rintro rfl
            exact h rfl
          rw [if_pos ⟨rfl, by simpa using hbefore⟩, if_pos rfl, asFolder, if_neg hroot]
      · have hroot : before ++ [last] ≠ [""] := by
          intro hone
          exact hlast (concat_eq_root_iff.1 hone).2
        rw [if_neg (by simp [hlast]), if_neg (by simp [hlast]), asFolder, if_neg hroot]

end

/-! ## What a path is to name -/

/-- A text that is its own segment. -/
def IsWord (text : String) : Prop :=
  text ≠ "" ∧ Clean text ∧ coded true text = text ∧ coded false text = text

abbrev Word := { text : String // IsWord text }

/-- A part of a path: a fixed word, or a text that somebody gave. -/
inductive Part where
  | fixed (word : Word)
  | given (text : String)

namespace Part

def text : Part → String
  | fixed word => word
  | given text => text

/-- A given text is decoded from its segment, which nothing else ends than its end. -/
def SpelledBy : Part → String → Prop
  | fixed word, segment => segment = word
  | given text, segment => Percent.decodeText? segment = some text ∧
      ∀ c ∈ segment.toList, c ∉ ['/', '?', '#']

end Part

/-- The path is the base without one empty segment at its end, and then one segment for each
part. -/
def NamesExactly (u : Url) (base : List String) (parts : List Part) : Prop :=
  ∃ written, u.path = .segments (withoutTrailing base ++ written) ∧
    List.Forall₂ (fun segment part => part.SpelledBy segment) written parts

section

variable {u v : Url} {base texts : List String} {parts : List Part} {part : Part}
  {word : Word} {segment : String}

theorem coded_word (word : Word) (special : Bool) :
    coded special word = word := by
  cases special
  · exact word.2.2.2.2
  · exact word.2.2.2.1

theorem Part.spelledBy_coded (part : Part) (special : Bool) :
    part.SpelledBy (coded special part.text) := by
  cases part with
  | fixed word => exact coded_word word special
  | given text =>
      exact ⟨decodeText?_coded special text, fun c hc hend => notMem_coded hend special text hc⟩

theorem Part.SpelledBy.decodeText? (h : part.SpelledBy segment) :
    Percent.decodeText? segment = some part.text := by
  cases part with
  | fixed word =>
      obtain rfl : segment = word := h
      have hdecode := decodeText?_coded true (word : String)
      rwa [coded_word] at hdecode
  | given text => exact h.1

theorem Part.forall_clean_iff :
    (∀ part ∈ parts, Clean part.text) ↔ ∀ text, Part.given text ∈ parts → Clean text := by
  constructor
  · exact fun h text htext => h _ htext
  · intro h part hpart
    cases part with
    | fixed word => exact word.2.2.1
    | given text => exact h text hpart

/-- A word at the start of what is put into a path stands after the folder that is extended. -/
theorem path_of_extend? (hbase : u.path = .segments base)
    (hext : u.extend? (word :: texts) = some v) :
    v.path = .segments (texts.foldl (pushSegment u.isSpecial)
      (asFolder (popIfEmpty base) ++ [word.1])) := by
  simp only [extend?, hbase, Option.some.injEq] at hext
  rw [← hext, List.foldl_cons, pushSegment_of_clean word.2.2.1, coded_word]

theorem path_of_clean (hbase : u.path = .segments base)
    (hext : u.extend? (word :: texts) = some v) (h : ∀ text ∈ texts, Clean text) :
    v.path = .segments (asFolder (popIfEmpty base) ++
      (word :: texts : List String).map (coded u.isSpecial)) := by
  have hroot : asFolder (popIfEmpty base) ++ [word.1] ≠ [""] := by
    intro hone
    exact word.2.1 (concat_eq_root_iff.1 hone).2
  rw [path_of_extend? hbase hext, foldl_pushSegment_of_clean (by simp) hroot h, List.map_cons,
    coded_word, ← List.append_cons]

theorem ne_of_namesExactly (hbase : u.path = .segments base)
    (hext : u.extend? (word :: parts.map Part.text) = some v)
    (h : v.NamesExactly base (.fixed word :: parts)) : base ≠ ["", ""] := by
  rintro rfl
  obtain ⟨written, hwritten, hspelled⟩ := h
  rw [path_of_extend? hbase hext, Path.segments.injEq] at hwritten
  have hlength := length_foldl_pushSegment_le u.isSpecial (parts.map Part.text)
    (asFolder (popIfEmpty ["", ""]) ++ [word.1])
  have hfolder : asFolder (popIfEmpty ["", ""]) = [] := rfl
  have hkept : withoutTrailing ["", ""] = [""] := rfl
  rw [hwritten, hfolder, hkept, List.length_append, List.length_map, hspelled.length_eq] at hlength
  simp at hlength

theorem namesExactly_iff (hbase : u.path = .segments base)
    (hext : u.extend? (word :: parts.map Part.text) = some v) :
    v.NamesExactly base (.fixed word :: parts) ↔
      (∀ part ∈ parts, Clean part.text) ∧ base ≠ ["", ""] := by
  constructor
  · intro h
    have htwo := ne_of_namesExactly hbase hext h
    obtain ⟨written, hwritten, hspelled⟩ := h
    obtain ⟨first, segments, hfirst, hsegments, rfl⟩ := List.forall₂_cons_right_iff.1 hspelled
    obtain rfl : first = word := hfirst
    rw [path_of_extend? hbase hext, Path.segments.injEq, asFolder_popIfEmpty htwo,
      List.append_cons _ _ segments] at hwritten
    have hdecoded : List.Forall₂ (fun segment text => Percent.decodeText? segment = some text)
        segments (parts.map Part.text) := by
      rw [List.forall₂_map_right_iff]
      exact hsegments.imp fun _ _ h => h.decodeText?
    exact ⟨List.forall_mem_map.1 (clean_of_foldl_pushSegment (by simp) hwritten hdecoded), htwo⟩
  · rintro ⟨hclean, htwo⟩
    refine ⟨(Part.fixed word :: parts).map fun part => coded u.isSpecial part.text, ?_, ?_⟩
    · rw [path_of_clean hbase hext (List.forall_mem_map.2 hclean), asFolder_popIfEmpty htwo,
        List.map_cons, List.map_map]
      rfl
    · rw [List.forall₂_map_left_iff, List.forall₂_same]
      exact fun part _ => part.spelledBy_coded u.isSpecial

end

/-! ## What the text of a URL tells -/

/-- All that is written before the segments that are put into a folder. -/
def lead (u : Url) (folder : List String) : List Char :=
  ({ u with path := .segments folder, query := none, fragment := none } : Url).text.toList

/-- All that is written after the path. -/
def rear (u : Url) : List Char :=
  (match u.query with
    | none => []
    | some q => '?' :: q.toList) ++
  match u.fragment with
    | none => []
    | some f => '#' :: f.toList

section

variable {u v : Url} {folder written written' : List String} {c : Char}

theorem rear_eq_nil_or (u : Url) :
    u.rear = [] ∨ ∃ c rest, u.rear = c :: rest ∧ ['?', '#'].contains c = true := by
  unfold rear
  cases u.query with
  | some q => exact .inr ⟨'?', _, rfl, rfl⟩
  | none =>
      cases u.fragment with
      | some f => exact .inr ⟨'#', _, rfl, rfl⟩
      | none => exact .inl rfl

theorem toList_text (hpath : u.path = .segments (folder ++ written)) :
    u.text.toList = u.lead folder ++ (written.flatMap ('/' :: ·.toList) ++ u.rear) := by
  have hslash (w : String) : ("/" ++ w).toList = '/' :: w.toList := by
    rw [String.toList_append]
    rfl
  simp only [text, lead, rear, hpath, Path.text, String.toList_append, String.toList_join,
    List.flatMap_map, List.flatMap_append, List.append_assoc, hslash]
  cases u.query <;> cases u.fragment <;> simp

theorem intercalate_slash (first : List Char) (written : List String) :
    ['/'].intercalate (first :: written.map String.toList) =
      first ++ written.flatMap ('/' :: ·.toList) := by
  induction written generalizing first with
  | nil => simp
  | cons w written ih =>
      rw [List.map_cons, List.intercalate_cons_cons, ih, List.flatMap_cons, List.append_assoc]
      rfl

/-- Whatever is in front and behind, the text tells the segments that were put in. -/
theorem written_eq_of_text_eq (hu : u.path = .segments (folder ++ written))
    (hv : v.path = .segments (folder ++ written')) (hlead : u.lead folder = v.lead folder)
    (hwritten : ∀ w ∈ written, ∀ c ∈ w.toList, c ∉ ['/', '?', '#'])
    (hwritten' : ∀ w ∈ written', ∀ c ∈ w.toList, c ∉ ['/', '?', '#']) (h : u.text = v.text) :
    written = written' := by
  have htake {u : Url} {written : List String}
      (hwritten : ∀ w ∈ written, ∀ c ∈ w.toList, c ∉ ['/', '?', '#']) :
      (written.flatMap ('/' :: ·.toList) ++ u.rear).takeWhile (fun c => ! ['?', '#'].contains c) =
        written.flatMap ('/' :: ·.toList) := by
    rw [List.takeWhile_append_of_pos]
    · rcases u.rear_eq_nil_or with hrear | ⟨c, rest, hrear, hc⟩
      · rw [hrear, List.takeWhile_nil, List.append_nil]
      · rw [hrear, List.takeWhile_cons_of_neg (by rw [hc]; nofun), List.append_nil]
    · intro c hc
      obtain ⟨w, hw, hc⟩ := List.mem_flatMap.1 hc
      rcases List.mem_cons.1 hc with rfl | hc
      · rfl
      · have hend := hwritten w hw c hc
        simp only [List.mem_cons, List.not_mem_nil, or_false, not_or] at hend
        simp [hend]
  have hsplit {written : List String}
      (hwritten : ∀ w ∈ written, ∀ c ∈ w.toList, c ∉ ['/', '?', '#']) :
      splitAtEach '/' (written.flatMap ('/' :: ·.toList)) = [] :: written.map String.toList := by
    rw [← List.nil_append (written.flatMap _), ← intercalate_slash]
    refine splitAtEach_intercalate (List.cons_ne_nil _ _) ?_
    rw [List.forall_mem_cons, List.forall_mem_map]
    exact ⟨List.not_mem_nil, fun w hw hslash => hwritten w hw _ hslash List.mem_cons_self⟩
  have hlists := congrArg String.toList h
  rw [toList_text hu, toList_text hv, hlead] at hlists
  have hsame := congrArg (List.takeWhile fun c => ! ['?', '#'].contains c)
    (List.append_cancel_left hlists)
  rw [htake hwritten, htake hwritten'] at hsame
  have hparts := congrArg (splitAtEach '/') hsame
  rw [hsplit hwritten, hsplit hwritten'] at hparts
  exact List.map_injective_iff.2 (fun _ _ => String.toList_inj.1) (List.cons.inj hparts).2

end

/-! ## URLs that go on from another one -/

/-- What a URL has in its query, ready to be followed by more. -/
def ownQuery (u : Url) : String := u.query.elim "" fun q => if q = "" then "" else q ++ "&"

/-- A URL with texts put at the end of its path, and with whatever query. -/
def Extended (u : Url) (texts : List String) (v : Url) : Prop :=
  ∃ w, u.extend? texts = some w ∧ v.path = w.path ∧ ∀ folder, v.lead folder = u.lead folder

section

variable {u v v' : Url} {base texts texts' : List String} {parts : List Part}
  {word : Word}

theorem exists_extend?_eq (hbase : u.path = .segments base) (texts : List String) :
    ∃ path, u.extend? texts = some { u with path := .segments path } := by
  refine ⟨texts.foldl (pushSegment u.isSpecial) (popIfEmpty base), ?_⟩
  simp only [extend?, hbase]

theorem exists_extended (hbase : u.path = .segments base) (texts : List String) :
    ∃ v, u.extend? texts = some v ∧ u.Extended texts v := by
  obtain ⟨path, hext⟩ := exists_extend?_eq hbase texts
  exact ⟨_, hext, _, hext, rfl, fun _ => rfl⟩

theorem addPairs_eq (u : Url) (pairs : List (String × String)) :
    u.addPairs pairs = { u with query := some (u.ownQuery ++ Form.encodePairs pairs) } := by
  unfold addPairs ownQuery
  cases u.query with
  | none => simp
  | some q => by_cases hq : q = "" <;> simp [hq]

theorem Extended.addPairs (h : u.Extended texts v) (pairs : List (String × String)) :
    u.Extended texts (v.addPairs pairs) := by
  obtain ⟨w, hw, hpath, hlead⟩ := h
  rw [addPairs_eq]
  exact ⟨w, hw, hpath, hlead⟩

theorem Extended.namesExactly_iff (hbase : u.path = .segments base)
    (h : u.Extended (word :: parts.map Part.text) v) :
    v.NamesExactly base (.fixed word :: parts) ↔
      (∀ text, Part.given text ∈ parts → Clean text) ∧ base ≠ ["", ""] := by
  obtain ⟨w, hw, hpath, -⟩ := h
  rw [← Part.forall_clean_iff, ← Url.namesExactly_iff hbase hw, NamesExactly, NamesExactly, hpath]

/-- Two such URLs that are written alike were extended by the same texts. -/
theorem Extended.texts_eq (hbase : u.path = .segments base) (h : u.Extended (word :: texts) v)
    (h' : u.Extended (word :: texts') v') (hclean : ∀ text ∈ texts, Clean text)
    (hclean' : ∀ text ∈ texts', Clean text) (htext : v.text = v'.text) : texts = texts' := by
  obtain ⟨w, hw, hpath, hlead⟩ := h
  obtain ⟨w', hw', hpath', hlead'⟩ := h'
  have hend (texts : List String) :
      ∀ segment ∈ texts.map (coded u.isSpecial), ∀ c ∈ segment.toList, c ∉ ['/', '?', '#'] := by
    rw [List.forall_mem_map]
    exact fun text _ c hc hend => notMem_coded hend u.isSpecial text hc
  have hsame := written_eq_of_text_eq (hpath.trans (path_of_clean hbase hw hclean))
    (hpath'.trans (path_of_clean hbase hw' hclean')) ((hlead _).trans (hlead' _).symm)
    (hend _) (hend _) htext
  exact (List.cons.inj (List.map_injective_iff.2 (coded_injective u.isSpecial) hsame)).2

end

end RoomReader.Url
