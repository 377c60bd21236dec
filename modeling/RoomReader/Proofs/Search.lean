import Mathlib
import RoomReader.Proofs.Directory
import RoomReader.Proofs.Text.Lowercase

namespace RoomReader

/-!
# What is written as it is looked for

A search compares in lower case, so a room whose name has the text of a query in it, letter for
letter, is found as long as the text has the same lower case in the name as alone. That is so for
every name exactly if the text has no open sigma. The case of letters in ASCII is of no account.
-/

/-! ## The case of letters in ASCII -/

/-- Texts that differ at most in the case of letters in ASCII. -/
def SameButCase (s t : String) : Prop :=
  s.toList.map Char.toLower = t.toList.map Char.toLower

instance (s t : String) : Decidable (SameButCase s t) := inferInstanceAs (Decidable (_ = _))

theorem Blank.isBlank_toLower : ∀ c : Char, isBlank c.toLower = isBlank c :=
  Lowercase.forall_of_upper (fun _ h => by rw [h]) (by decide +kernel)

theorem Blank.trimBy_map_toLower (cs : List Char) :
    trimBy isBlank (cs.map Char.toLower) = (trimBy isBlank cs).map Char.toLower := by
  have hblank : isBlank ∘ Char.toLower = isBlank := funext isBlank_toLower
  rw [trimBy, trimBy, List.dropWhile_map, hblank, ← List.map_reverse, List.dropWhile_map, hblank,
    List.map_reverse]

namespace Directory

variable {query query' : String} {r : PublicRoom}

theorem needle_of_sameButCase (h : SameButCase query query') : needle query = needle query' := by
  have hlower (q : String) : (needle q).toList = Lowercase.lowerFrom []
      (Blank.trimBy Blank.isBlank (q.toList.map Char.toLower)) := by
    rw [Blank.trimBy_map_toLower, needle, Lowercase.lower, Blank.trim, String.toList_ofList,
      String.toList_ofList]
    exact (Lowercase.lowerFrom_map_toLower [] _).symm
  rw [← String.toList_inj, hlower, hlower, h]

theorem search_of_sameButCase (h : SameButCase query query') (d : Directory) (page pageSize : Nat) :
    d.search page pageSize query = d.search page pageSize query' := by
  rw [search, search, needle_of_sameButCase h]

/-! ## Letter for letter -/

/-- The text of a query, without the blanks around it. -/
abbrev sought (query : String) : List Char := (Blank.trim query).toList

def Quotes (part : List Char) (field : Option String) : Prop :=
  ∃ text ∈ field, part <:+: text.toList

/-- The name or the topic of a room has a part in it letter for letter, or its canonical alias does
and the part starts as an alias. -/
def Bears (part : List Char) (r : PublicRoom) : Prop :=
  Quotes part r.name ∨ Quotes part r.topic ∨
    (part.head? = some '#' ∧ Quotes part r.canonicalAlias)

theorem toList_needle (query : String) :
    (needle query).toList = Lowercase.lowerFrom [] (sought query) := by
  rw [needle, Lowercase.lower, String.toList_ofList]

theorem head?_needle (h : (sought query).head? = some '#') :
    (needle query).toList.head? = some '#' := by
  rw [toList_needle]
  cases hsought : sought query with
  | nil => rw [hsought] at h; cases h
  | cons c rest =>
      rw [hsought] at h
      cases h
      rfl

theorem mem_search_zero {d : Directory} {pageSize : Nat} :
    r ∈ d.search 0 pageSize query ↔ r ∈ d.rooms ∧ Matches query r := by
  rw [search_eq, Pagination.slice_zero, List.mem_filter, decide_eq_true_iff]

theorem Quotes.mentions {field : Option String} (h : Quotes (sought query) field)
    (hsettled : ¬ Lowercase.HasOpenSigma (sought query)) : Mentions query field := by
  obtain ⟨text, htext, hinfix⟩ := h
  refine ⟨text, htext, ?_⟩
  rw [toList_needle, Lowercase.lower, String.toList_ofList]
  exact Lowercase.lowerFrom_infix_of_settled hsettled hinfix

theorem Bears.matches (h : Bears (sought query) r)
    (hsettled : ¬ Lowercase.HasOpenSigma (sought query)) : Matches query r := by
  rcases h with hname | htopic | ⟨hhead, halias⟩
  · exact .inr (.inl (hname.mentions hsettled))
  · exact .inr (.inr (.inl (htopic.mentions hsettled)))
  · exact .inr (.inr (.inr ⟨head?_needle hhead, halias.mentions hsettled⟩))

theorem exists_bears_of_hasOpenSigma (hquery : sought query ≠ [])
    (hopen : Lowercase.HasOpenSigma (sought query)) :
    ∃ r : PublicRoom, r.worldReadable = true ∧ Bears (sought query) r ∧ ¬ Matches query r := by
  obtain ⟨text, hinfix, hmissed⟩ := Lowercase.exists_infix_of_hasOpenSigma hopen
  let r : PublicRoom := { roomId := "!r", name := some (String.ofList text), worldReadable := true }
  refine ⟨r, rfl, .inl ⟨_, rfl, by rwa [String.toList_ofList]⟩, ?_⟩
  rintro (hblank | ⟨name, hname, hfound⟩ | ⟨topic, htopic, -⟩ | ⟨-, roomAlias, halias, -⟩)
  · refine hquery ?_
    rw [sought, trim_eq_empty_iff.2 hblank]
    rfl
  · cases hname
    rw [toList_needle, Lowercase.lower, String.toList_ofList, String.toList_ofList] at hfound
    exact hmissed hfound
  · cases htopic
  · cases halias

/-- A query that is not blank finds every room that bears its text, exactly if the text has no open
sigma. If it has one, there is a room open to all the world that no directory shows for it. To
change the case of letters in ASCII does not change what is found. -/
theorem search_finds_bearers_iff (query : String) :
    (sought query ≠ [] →
      ((∀ (d : Directory) pageSize, ∀ r ∈ d.rooms, Bears (sought query) r →
          r ∈ d.search 0 pageSize query) ↔
        ¬ Lowercase.HasOpenSigma (sought query))) ∧
    ∀ query', SameButCase query query' → ∀ (d : Directory) page pageSize,
      d.search page pageSize query = d.search page pageSize query' := by
  refine ⟨fun hquery => ⟨fun hfinds hopen => ?_, fun hsettled d pageSize r hr hbears => ?_⟩,
    fun query' h d page pageSize => search_of_sameButCase h d page pageSize⟩
  · obtain ⟨r, -, hbears, hmissed⟩ := exists_bears_of_hasOpenSigma hquery hopen
    exact hmissed (mem_search_zero.1 (hfinds ⟨[r]⟩ 0 r List.mem_cons_self hbears)).2
  · exact mem_search_zero.2 ⟨hr, hbears.matches hsettled⟩

end Directory

/-! Two rooms whose names are all in capitals, and queries for parts of them. -/

namespace GreekDirectory

open Directory

def wisdom : PublicRoom :=
  { roomId := "!wisdom:hs.one", name := some "ΟΙ ΣΟΦΟΙ", worldReadable := true }

def aria : PublicRoom := { roomId := "!aria:hs.one", name := some "ΑΣΑ CLUB", worldReadable := true }

def directory : Directory := .ofChunk "https://hs.one" [wisdom, aria]

/-- The sigma of this query stands before a letter, so it is a plain one everywhere. -/
theorem wisdom_is_found : sought " ΣΟΦ " ≠ [] ∧ ¬ Lowercase.HasOpenSigma (sought " ΣΟΦ ") ∧
    wisdom ∈ directory.search 0 20 " ΣΟΦ " ∧
    directory.search 1 20 "ΑΣΑ Club" = directory.search 1 20 "ΑΣΑ cLUB" := by
  have hsought : sought " ΣΟΦ " = ['Σ', 'Ο', 'Φ'] := by decide +kernel
  have hsettled : ¬ Lowercase.HasOpenSigma (sought " ΣΟΦ ") := by
    rw [hsought]
    rintro ⟨before, after, hsplit, hopen⟩
    cases before with
    | nil =>
        obtain ⟨-, rfl⟩ := List.cons.inj hsplit
        rcases hopen with ⟨-, hafter⟩ | ⟨⟨c, hbefore, -⟩, -⟩
        · exact hafter ⟨'Ο', by decide +kernel, by decide +kernel⟩
        · cases hbefore
    | cons c before =>
        have hmem : Lowercase.capitalSigma ∈ ['Ο', 'Φ'] := by
          rw [(List.cons.inj hsplit).2]
          exact List.mem_append_right _ List.mem_cons_self
        exact absurd hmem (by decide +kernel)
  have hne : sought " ΣΟΦ " ≠ [] := by
    rw [hsought]
    exact List.cons_ne_nil _ _
  have hbears : Bears (sought " ΣΟΦ ") wisdom := by
    rw [hsought]
    exact .inl ⟨_, rfl, ['Ο', 'Ι', ' '], ['Ο', 'Ι'], by decide +kernel⟩
  have hmem : wisdom ∈ directory.rooms := by decide +kernel
  have hfound : wisdom ∈ directory.search 0 20 " ΣΟΦ " :=
    ((search_finds_bearers_iff " ΣΟΦ ").1 hne).2 hsettled directory 20 wisdom hmem hbears
  have hcase : SameButCase "ΑΣΑ Club" "ΑΣΑ cLUB" := by decide +kernel
  exact ⟨hne, hsettled, hfound, (search_finds_bearers_iff "ΑΣΑ Club").2 _ hcase directory 1 20⟩

/-- At the end of the query the sigma becomes a final one, which no letter follows in any word. -/
theorem aria_is_missed : sought "ΑΣ" ≠ [] ∧ aria ∈ directory.rooms ∧ Bears (sought "ΑΣ") aria ∧
    directory.search 0 20 "ΑΣ" = [] ∧ Lowercase.HasOpenSigma (sought "ΑΣ") := by
  have hsought : sought "ΑΣ" = ['Α', 'Σ'] := by decide +kernel
  rw [hsought]
  refine ⟨List.cons_ne_nil _ _, by decide +kernel, .inl ⟨_, rfl, ?_⟩, by decide +kernel, ?_⟩
  · exact ⟨[], "Α CLUB".toList, by decide +kernel⟩
  · exact ⟨['Α'], [], by decide +kernel, .inr ⟨⟨'Α', by decide +kernel, by decide +kernel⟩, rfl⟩⟩

end GreekDirectory

end RoomReader
