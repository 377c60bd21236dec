import Mathlib.Data.List.Basic
import RoomReader.Text.Lowercase

namespace RoomReader.Lowercase

/-!
# Lower case within a text

A part of a text has the same lower case within the text as alone, unless it has a capital sigma
whose form is decided outside of the part. Then there is a text with the part in it whose lower case
does not have that of the part in it. The case of letters in ASCII is of no account.
-/

/-- The lower case of a part of a text, between what stands before it, backwards, and what stands
after it. -/
def lowerBetween (before after : List Char) : List Char → List Char
  | [] => []
  | c :: rest =>
    (if c = capitalSigma then
      [if startsCased before && !startsCased (rest ++ after) then finalSigma else sigma]
    else lowerChar c) ++ lowerBetween (c :: before) after rest

/-- The first character that is not ignorable for case. -/
def nearest? (cs : List Char) : Option Char := cs.find? (! isIgnorable ·)

/-- What stands before a sigma, backwards, and after it does not decide which form it has: either
there is nothing before it, and after it no cased character, or there is a cased character before
it, and after it nothing. Ignorable characters do not count. -/
def IsOpen (before after : List Char) : Prop :=
  nearest? before = none ∧ ¬ (∃ c ∈ nearest? after, isCased c = true) ∨
    (∃ c ∈ nearest? before, isCased c = true) ∧ nearest? after = none

/-- There is a capital sigma whose form is decided outside. -/
def HasOpenSigma (cs : List Char) : Prop :=
  ∃ before after, cs = before ++ capitalSigma :: after ∧ IsOpen before.reverse after

instance (before after : List Char) : Decidable (IsOpen before after) :=
  inferInstanceAs (Decidable (_ ∨ _))

variable {before before' after after' cs : List Char}

theorem hasOpenSigma_iff : HasOpenSigma cs ↔ ∃ i < cs.length, cs[i]? = some capitalSigma ∧
    IsOpen (cs.take i).reverse (cs.drop (i + 1)) := by
  constructor
  · rintro ⟨before, after, rfl, hopen⟩
    exact ⟨before.length, by simp, by simp, by simpa using hopen⟩
  · rintro ⟨i, hi, hsigma, hopen⟩
    refine ⟨cs.take i, cs.drop (i + 1), ?_, hopen⟩
    have hget : cs[i] = capitalSigma := List.getElem_eq_iff hi |>.2 hsigma
    rw [← hget, List.getElem_cons_drop, List.take_append_drop]

instance (cs : List Char) : Decidable (HasOpenSigma cs) := decidable_of_iff _ hasOpenSigma_iff.symm

/-! ## Which form a sigma has -/

theorem startsCased_iff : startsCased cs = true ↔ ∃ c ∈ nearest? cs, isCased c = true := by
  induction cs with
  | nil => simp [startsCased, nearest?]
  | cons c cs ih =>
      unfold startsCased nearest? at *
      by_cases hc : isIgnorable c = true
      · rw [List.dropWhile_cons_of_pos hc, List.find?_cons_of_neg (by simp [hc])]
        exact ih
      · rw [List.dropWhile_cons_of_neg hc, List.find?_cons_of_pos (by simp [hc])]
        simp

theorem nearest?_append : nearest? (cs ++ after) = (nearest? cs).or (nearest? after) :=
  List.find?_append

theorem startsCased_append_of_some {c : Char} (hc : c ∈ nearest? cs) (after : List Char) :
    startsCased (cs ++ after) = startsCased cs := by
  rw [Bool.eq_iff_iff, startsCased_iff, startsCased_iff, nearest?_append,
    Option.mem_def.1 hc, Option.some_or]

theorem startsCased_append_of_none (hcs : nearest? cs = none) (after : List Char) :
    startsCased (cs ++ after) = startsCased after := by
  rw [Bool.eq_iff_iff, startsCased_iff, startsCased_iff, nearest?_append, hcs, Option.none_or]

theorem startsCased_append_congr (h : startsCased after = startsCased after') :
    startsCased (cs ++ after) = startsCased (cs ++ after') := by
  cases hcs : nearest? cs with
  | none => rw [startsCased_append_of_none hcs, startsCased_append_of_none hcs, h]
  | some c => rw [startsCased_append_of_some hcs, startsCased_append_of_some hcs]

theorem startsCased_cons_congr (h : startsCased before = startsCased before') (c : Char) :
    startsCased (c :: before) = startsCased (c :: before') := by
  rw [← List.singleton_append, startsCased_append_congr h, List.singleton_append]

theorem nearest?_capitalSigma (cs : List Char) :
    nearest? (capitalSigma :: cs) = some capitalSigma := by
  have hsigma : (! isIgnorable capitalSigma) = true := by decide +kernel
  exact List.find?_cons_of_pos hsigma

theorem startsCased_capitalSigma (cs : List Char) : startsCased (capitalSigma :: cs) = true := by
  have hcased : isCased capitalSigma = true := by decide +kernel
  exact startsCased_iff.2 ⟨_, nearest?_capitalSigma cs, hcased⟩

theorem capitalSigma_notMem_of_nearest? (hcs : nearest? cs = none) : capitalSigma ∉ cs := by
  intro hmem
  have hsigma : isIgnorable capitalSigma = false := by decide +kernel
  have hignored := List.find?_eq_none.1 hcs _ hmem
  rw [hsigma] at hignored
  exact hignored rfl

/-! ## Parts of a text -/

theorem lowerFrom_eq_lowerBetween (before cs : List Char) :
    lowerFrom before cs = lowerBetween before [] cs := by
  induction cs generalizing before with
  | nil => rfl
  | cons c cs ih => rw [lowerFrom, lowerBetween, List.append_nil, ih]

theorem lowerBetween_append (before after cs ds : List Char) :
    lowerBetween before after (cs ++ ds) =
      lowerBetween before (ds ++ after) cs ++ lowerBetween (cs.reverse ++ before) after ds := by
  induction cs generalizing before with
  | nil => rfl
  | cons c cs ih =>
      rw [List.cons_append, lowerBetween, lowerBetween, ih, List.append_assoc, List.append_assoc,
        List.reverse_cons, List.append_assoc, List.singleton_append]

/-- Of what is around it a part only sees whether it is cased. -/
theorem lowerBetween_congr (hbefore : startsCased before = startsCased before')
    (hafter : startsCased after = startsCased after') (cs : List Char) :
    lowerBetween before after cs = lowerBetween before' after' cs := by
  induction cs generalizing before before' with
  | nil => rfl
  | cons c cs ih =>
      rw [lowerBetween, lowerBetween, hbefore, startsCased_append_congr hafter,
        ih (startsCased_cons_congr hbefore c)]

theorem lowerBetween_of_notMem (hcs : capitalSigma ∉ cs) (before after : List Char) :
    lowerBetween before after cs = cs.flatMap lowerChar := by
  induction cs generalizing before with
  | nil => rfl
  | cons c cs ih =>
      rw [List.mem_cons, not_or] at hcs
      rw [lowerBetween, if_neg (Ne.symm hcs.1), ih hcs.2, List.flatMap_cons]

theorem lowerBetween_sigma (before after cs ds : List Char) :
    lowerBetween before after (cs ++ capitalSigma :: ds) =
      lowerBetween before [capitalSigma] cs ++
        (if startsCased (cs.reverse ++ before) && !startsCased (ds ++ after) then finalSigma
          else sigma) :: lowerBetween [capitalSigma] after ds := by
  have hcased (es : List Char) : startsCased (capitalSigma :: es) = startsCased [capitalSigma] := by
    rw [startsCased_capitalSigma, startsCased_capitalSigma]
  rw [lowerBetween_append, List.cons_append, lowerBetween_congr rfl (hcased _), lowerBetween,
    if_pos rfl, lowerBetween_congr (hcased _) rfl ds, List.singleton_append]

theorem form_eq_of_not_isOpen (h : ¬ IsOpen before after) (outer further : List Char) :
    (startsCased (before ++ outer) && !startsCased (after ++ further)) =
      (startsCased before && !startsCased after) := by
  rw [IsOpen, not_or] at h
  cases hbefore : nearest? before with
  | none =>
      -- The sigma is not final in either case, for a letter follows within the part.
      obtain ⟨c, hc, hcased⟩ : ∃ c ∈ nearest? after, isCased c = true := by
        by_contra hnone
        exact h.1 ⟨hbefore, hnone⟩
      rw [startsCased_append_of_some hc, startsCased_iff.2 ⟨c, hc, hcased⟩]
      simp
  | some b =>
      rw [startsCased_append_of_some hbefore]
      cases hafter : nearest? after with
      | some c => rw [startsCased_append_of_some hafter]
      | none =>
          -- What comes before, in the part, is not cased, so the sigma is not final in either case.
          have hplain : startsCased before = false := by
            rw [Bool.eq_false_iff]
            intro hcased
            exact h.2 ⟨startsCased_iff.1 hcased, hafter⟩
          rw [hplain, Bool.false_and, Bool.false_and]

theorem lowerBetween_eq_of_settled
    (h : ∀ ds rest, cs = ds ++ capitalSigma :: rest → ¬ IsOpen (ds.reverse ++ before) rest)
    (outer after : List Char) :
    lowerBetween (before ++ outer) after cs = lowerBetween before [] cs := by
  induction cs generalizing before with
  | nil => rfl
  | cons c cs ih =>
      have hrest :
          lowerBetween (c :: before ++ outer) after cs = lowerBetween (c :: before) [] cs := by
        refine ih fun ds rest hcs => ?_
        have hopen := h (c :: ds) rest (by rw [hcs, List.cons_append])
        rwa [List.reverse_cons, List.append_assoc, List.singleton_append] at hopen
      rw [lowerBetween, lowerBetween, ← List.cons_append, hrest, List.append_nil]
      by_cases hc : c = capitalSigma
      · subst hc
        have hform := form_eq_of_not_isOpen (h [] cs rfl) outer after
        rw [List.reverse_nil, List.nil_append] at hform
        rw [hform]
      · rw [if_neg hc, if_neg hc]

/-- A part without an open sigma has the same lower case wherever it stands. -/
theorem lowerFrom_infix_of_settled (h : ¬ HasOpenSigma cs) {text : List Char}
    (htext : cs <:+: text) :
    lowerFrom [] cs <:+: lowerFrom [] text := by
  obtain ⟨outer, further, rfl⟩ := htext
  have hsettled : lowerBetween ([] ++ outer.reverse) further cs = lowerBetween [] [] cs := by
    refine lowerBetween_eq_of_settled (fun ds rest hcs hopen => ?_) outer.reverse further
    rw [List.append_nil] at hopen
    exact h ⟨ds, rest, hcs, hopen⟩
  rw [List.nil_append] at hsettled
  rw [lowerFrom_eq_lowerBetween, lowerFrom_eq_lowerBetween, lowerBetween_append,
    lowerBetween_append, List.append_nil, List.append_nil, hsettled]
  exact ⟨_, _, rfl⟩

theorem not_infix_of_perm {l text rest : List Char} {s t c : Char} (hl : l.Perm (s :: rest))
    (htext : text.Perm (t :: c :: rest)) (ht : t ≠ s) (hc : c ≠ s) : ¬ l <:+: text := by
  intro hinfix
  have hcount := hinfix.sublist.count_le s
  rw [hl.count_eq, htext.count_eq, List.count_cons_self, List.count_cons_of_ne ht,
    List.count_cons_of_ne hc] at hcount
  exact absurd hcount (Nat.not_succ_le_self _)

/-- A letter before the part makes the sigma final. -/
theorem not_infix_after_letter (hnone : nearest? before.reverse = none)
    (hplain : startsCased after = false) :
    ¬ lowerFrom [] (before ++ capitalSigma :: after) <:+:
      lowerFrom [] ('a' :: before ++ capitalSigma :: after) := by
  have hletter : startsCased ['a'] = true := by decide +kernel
  have hbefore : capitalSigma ∉ before := fun hmem =>
    capitalSigma_notMem_of_nearest? hnone (List.mem_reverse.2 hmem)
  have hwhole : capitalSigma ∉ 'a' :: before :=
    List.not_mem_cons_of_ne_of_not_mem (by decide) hbefore
  have halone : lowerFrom [] (before ++ capitalSigma :: after) =
      before.flatMap lowerChar ++ sigma :: lowerBetween [capitalSigma] [] after := by
    rw [lowerFrom_eq_lowerBetween, lowerBetween_sigma, lowerBetween_of_notMem hbefore,
      startsCased_append_of_none hnone]
    rfl
  have hwithin : lowerFrom [] ('a' :: before ++ capitalSigma :: after) =
      'a' :: before.flatMap lowerChar ++ finalSigma :: lowerBetween [capitalSigma] [] after := by
    rw [lowerFrom_eq_lowerBetween, lowerBetween_sigma, lowerBetween_of_notMem hwhole,
      List.reverse_cons, List.append_assoc, startsCased_append_of_none hnone, List.append_nil,
      List.append_nil, hletter, hplain]
    rfl
  rw [halone, hwithin]
  exact not_infix_of_perm List.perm_middle List.perm_middle (by decide) (by decide)

/-- A letter after the part makes the sigma a plain one. -/
theorem not_infix_before_letter (hcased : startsCased before.reverse = true)
    (hnone : nearest? after = none) :
    ¬ lowerFrom [] (before ++ capitalSigma :: after) <:+:
      lowerFrom [] (before ++ capitalSigma :: (after ++ ['a'])) := by
  have hletter : startsCased ['a'] = true := by decide +kernel
  have hafter : capitalSigma ∉ after := capitalSigma_notMem_of_nearest? hnone
  have hwhole : capitalSigma ∉ after ++ ['a'] := by
    rw [List.mem_append, not_or]
    exact ⟨hafter, by decide⟩
  have halone : lowerFrom [] (before ++ capitalSigma :: after) =
      lowerBetween [] [capitalSigma] before ++ finalSigma :: after.flatMap lowerChar := by
    rw [lowerFrom_eq_lowerBetween, lowerBetween_sigma, lowerBetween_of_notMem hafter,
      List.append_nil, hcased, startsCased_append_of_none hnone]
    rfl
  have hwithin : lowerFrom [] (before ++ capitalSigma :: (after ++ ['a'])) =
      lowerBetween [] [capitalSigma] before ++ sigma :: (after.flatMap lowerChar ++ ['a']) := by
    rw [lowerFrom_eq_lowerBetween, lowerBetween_sigma, lowerBetween_of_notMem hwhole,
      List.append_nil, List.append_nil, hcased, startsCased_append_of_none hnone, hletter,
      List.flatMap_append]
    rfl
  rw [halone, hwithin]
  refine not_infix_of_perm List.perm_middle (List.perm_middle.trans (.cons _ ?_)) (by decide)
    (c := 'a') (by decide)
  rw [← List.append_assoc]
  exact List.perm_append_singleton ..

theorem exists_infix_of_hasOpenSigma (h : HasOpenSigma cs) :
    ∃ text, cs <:+: text ∧ ¬ lowerFrom [] cs <:+: lowerFrom [] text := by
  obtain ⟨before, after, rfl, ⟨hnone, hplain⟩ | ⟨hcased, hnone⟩⟩ := h
  · have hafter : startsCased after = false := by
      rw [Bool.eq_false_iff, Ne, startsCased_iff]
      exact hplain
    exact ⟨_, ⟨['a'], [], by simp⟩, not_infix_after_letter hnone hafter⟩
  · exact ⟨_, ⟨[], ['a'], by simp⟩, not_infix_before_letter (startsCased_iff.2 hcased) hnone⟩

/-! ## Letters in ASCII -/

theorem forall_of_upper {p : Char → Prop} (hself : ∀ c, c.toLower = c → p c)
    (hupper : ∀ n < 26, p (Char.ofNat (n + 65))) (c : Char) : p c := by
  replace hself := hself c
  unfold Char.toLower at hself
  split at hself
  · rename_i hrange
    obtain ⟨hlow, hhigh⟩ := hrange
    have hlow' : 65 ≤ c.toNat := hlow
    have hhigh' : c.toNat ≤ 90 := hhigh
    have hc := hupper (c.toNat - 65) (by omega)
    rwa [Nat.sub_add_cancel hlow', Char.ofNat_toNat] at hc
  · exact hself rfl

theorem isIgnorable_toLower : ∀ c : Char, isIgnorable c.toLower = isIgnorable c :=
  forall_of_upper (fun _ h => by rw [h]) (by decide +kernel)

theorem isCased_toLower : ∀ c : Char, isCased c.toLower = isCased c :=
  forall_of_upper (fun _ h => by rw [h]) (by decide +kernel)

theorem lowerChar_toLower : ∀ c : Char, lowerChar c.toLower = lowerChar c :=
  forall_of_upper (fun _ h => by rw [h]) (by decide +kernel)

theorem toLower_eq_capitalSigma_iff : ∀ c : Char, c.toLower = capitalSigma ↔ c = capitalSigma :=
  forall_of_upper (fun _ h => by rw [h]) (by decide +kernel)

theorem startsCased_map_toLower (cs : List Char) :
    startsCased (cs.map Char.toLower) = startsCased cs := by
  unfold startsCased
  have hignorable : isIgnorable ∘ Char.toLower = isIgnorable := funext isIgnorable_toLower
  rw [List.dropWhile_map, hignorable]
  cases cs.dropWhile isIgnorable with
  | nil => rfl
  | cons c rest => exact isCased_toLower c

theorem lowerFrom_map_toLower (before cs : List Char) :
    lowerFrom (before.map Char.toLower) (cs.map Char.toLower) = lowerFrom before cs := by
  induction cs generalizing before with
  | nil => rfl
  | cons c cs ih =>
      rw [List.map_cons, lowerFrom, lowerFrom, startsCased_map_toLower, startsCased_map_toLower,
        lowerChar_toLower, ← List.map_cons, ih]
      simp only [toLower_eq_capitalSigma_iff]

end RoomReader.Lowercase
