import RoomReader.Proofs.Timeline.History

namespace RoomReader.Timeline

/-!
# Reading pages from a homeserver that answers

Before it reads a page, a timeline asks at most twice for older events: once for the anchor and
once for the page with a margin. The margin makes up for the redactions among what comes, so the
page does not show how much was held before.
-/

section

variable {σ : Type} {hs : Homeserver σ} {room : String} {log : σ → List Event} {l : List Event}
  {t : Timeline} {s : σ} {b f : Nat}

/-- Asking for older events moves the old end of the stretch, and something comes unless the
stretch begins at the start of the log. -/
theorem Mirrors.run_backpaginate (hx : Mirrors l t b f) (h : ServesLog hs room log)
    (ha : AnswersMessages hs room log) (hl : l <+: log s) (amount : Nat) :
    ∃ received t' s', (t.backpaginate room amount).run hs s = (some (.ok received, t'), s') ∧
      l <+: log s' ∧ Mirrors l t' (b - max amount minimumPagination) f ∧
        (received = 0 ↔ b = 0) := by
  have hb : b ≤ (log s).length := (hx.le.trans hx.le_length).trans hl.length_le
  obtain ⟨m, s', hc⟩ := ha b .backward (max amount minimumPagination) s hb
  have hl' : l <+: log s' := hl.trans (h.isPrefix hc)
  obtain ⟨hm, hend⟩ := h.older hb hc
  have hpos : 0 < max amount minimumPagination := lt_of_lt_of_le (by decide) (le_max_right _ _)
  refine ⟨m.chunk.length, t.extendBack m, s', ?_, hl', ?_, ?_⟩
  · simp only [backpaginate, Exchange.messages_bind]
    rw [← hx.backToken] at hc
    rw [Exchange.run_ask_of_respond hc]
    rfl
  · exact ((hx.of_isPrefix hl').extendBack hpos hm hend).of_isPrefix_of_le hl' hx.le_length
  · rw [hm.length_chunk (hb.trans (h.isPrefix hc).length_le)]
    omega

/-- What a look-up of an anchor finds: its index in the history, if the anchor is held or among the
entries just before what is held. -/
def Found (l : List Event) (b f : Nat) (anchor : String) (a : Nat) : Prop :=
  ∃ e, (history l f)[a]? = some e ∧ e.id = anchor ∧ e ∈ between l (b - anchorBackfill) f

theorem Mirrors.run_findAnchor (hx : Mirrors l t b f) (h : ServesLog hs room log)
    (ha : AnswersMessages hs room log) (hl : l <+: log s) (hd : (l.map Event.id).Nodup)
    (anchor : String) :
    ∃ r t' s' b', (t.findAnchor room anchor).run hs s = (some (.ok r, t'), s') ∧ l <+: log s' ∧
      Mirrors l t' b' f ∧ ∀ a, r = some a ↔ Found l b f anchor a := by
  unfold findAnchor
  cases hposition : t.position? anchor with
  | some i =>
      obtain ⟨e, hi, hid, hmem⟩ := (hx.position?_eq_some_iff hd).1 hposition
      refine ⟨some i, t, s, b, rfl, hl, hx, fun a => ⟨?_, ?_⟩⟩
      · rintro ⟨⟩
        exact ⟨e, hi, hid, between_subset_between (Nat.sub_le _ _) hmem⟩
      · rintro ⟨e', ha', hid', -⟩
        exact congrArg some (index_unique (nodup_history hd) hi ha' (hid.trans hid'.symm))
  | none =>
      have hnone (a : Nat) : ¬ ∃ e, (history l f)[a]? = some e ∧ e.id = anchor ∧
          e ∈ between l b f := by
        rw [← hx.position?_eq_some_iff hd, hposition]
        nofun
      by_cases hend : t.historicEndReached = true
      · have hb := hx.historicEnd hend
        refine ⟨none, t, s, b, by simp only [hend]; rfl, hl, hx, fun a => ⟨nofun, ?_⟩⟩
        rintro ⟨e, hfound⟩
        exact absurd ⟨e, by simpa [hb] using hfound⟩ (hnone a)
      · obtain ⟨received, t', s', hrun, hl', hx', hreceived⟩ :=
          hx.run_backpaginate h ha hl anchorBackfill
        have hmax : max anchorBackfill minimumPagination = anchorBackfill := by decide
        rw [hmax] at hx'
        refine ⟨if 0 < received then t'.position? anchor else none, t', s', _, ?_, hl', hx', ?_⟩
        · simp only [hend]
          exact Exchange.run_bind_of_run hrun
        · intro a
          by_cases hpos : 0 < received
          · rw [if_pos hpos, hx'.position?_eq_some_iff hd]
            rfl
          · have hb : b = 0 := hreceived.1 (by omega)
            rw [if_neg hpos]
            refine ⟨nofun, ?_⟩
            rintro ⟨e, hfound⟩
            exact absurd ⟨e, by simpa [hb] using hfound⟩ (hnone a)

def Anchored (l : List Event) (b f : Nat) (anchor : String) (a : Nat) : Prop :=
  (anchor = "" ∧ a = 0) ∨ (anchor ≠ "" ∧ Found l b f anchor a)

theorem Mirrors.run_anchorIndex (hx : Mirrors l t b f) (h : ServesLog hs room log)
    (ha : AnswersMessages hs room log) (hl : l <+: log s) (hd : (l.map Event.id).Nodup)
    (anchor : String) :
    ∃ r t' s' b', (t.anchorIndex room anchor).run hs s = (some (r, t'), s') ∧ l <+: log s' ∧
      Mirrors l t' b' f ∧ (∀ a, r = .ok a ↔ Anchored l b f anchor a) ∧
        ∀ e, r = .error e → e = .anchorNotFound room anchor := by
  unfold anchorIndex
  by_cases hanchor : anchor = ""
  · subst hanchor
    refine ⟨.ok 0, t, s, b, rfl, hl, hx, fun a => ?_, nofun⟩
    simp [Anchored, eq_comm]
  · have hempty : anchor.isEmpty = false := by simpa using hanchor
    obtain ⟨r, t', s', b', hrun, hl', hx', hr⟩ := hx.run_findAnchor h ha hl hd anchor
    simp only [hempty]
    cases r with
    | none =>
        refine ⟨.error (.anchorNotFound room anchor), t', s', b',
          Exchange.run_bind_of_run hrun, hl', hx', fun a => ⟨fun hok => ?_, ?_⟩, ?_⟩
        · cases hok
        · rintro (⟨hnil, -⟩ | ⟨-, hfound⟩)
          · exact absurd hnil hanchor
          · cases (hr a).2 hfound
        · rintro e ⟨⟩
          rfl
    | some i =>
        refine ⟨.ok i, t', s', b', Exchange.run_bind_of_run hrun, hl', hx', fun a => ?_, nofun⟩
        have hi := hr a
        simp only [Anchored, hanchor, false_and, false_or, ne_eq, not_false_eq_true, true_and, ← hi,
          Except.ok.injEq, Option.some.injEq]

/-- A timeline that does not reach beyond a position asks for as many entries as are missing, unless
the history is known to end. -/
theorem Mirrors.run_reach_cases (hx : Mirrors l t b f) (h : ServesLog hs room log)
    (ha : AnswersMessages hs room log) (hl : l <+: log s) (wanted : Nat) :
    ∃ t' s' b', (t.reach room wanted).run hs s = (some t', s') ∧ l <+: log s' ∧
      Mirrors l t' b' f ∧ ((t' = t ∧ b' = b ∧ (b = 0 ∨ wanted < t.length)) ∨
        (t.length ≤ wanted ∧ b' = b - max (wanted - t.length) minimumPagination)) := by
  unfold reach
  by_cases hneed : (!t.historicEndReached && decide (t.length ≤ wanted)) = true
  · obtain ⟨received, t', s', hrun, hl', hx', -⟩ :=
      hx.run_backpaginate h ha hl (wanted - t.length)
    refine ⟨t', s', _, ?_, hl', hx', .inr ⟨by simp_all, rfl⟩⟩
    simp only [hneed]
    exact Exchange.run_bind_of_run hrun
  · refine ⟨t, s, b, by simp only [hneed]; rfl, hl, hx, .inl ⟨rfl, rfl, ?_⟩⟩
    cases hend : t.historicEndReached with
    | true => exact .inl (hx.historicEnd hend)
    | false => exact .inr (by simpa [hend] using hneed)

/-- After it was asked to reach a position, a timeline holds everything or reaches beyond the
position less the margin. -/
theorem Mirrors.run_reach (hx : Mirrors l t b f) (h : ServesLog hs room log)
    (ha : AnswersMessages hs room log) (hl : l <+: log s) (hregular : Regular l) (wanted : Nat) :
    ∃ t' s' b', (t.reach room wanted).run hs s = (some t', s') ∧ l <+: log s' ∧
      Mirrors l t' b' f ∧ (b' = 0 ∨ (wanted < t'.length + safetyMargin ∧ wanted < f)) := by
  have hlength := hx.length_le
  obtain ⟨t', s', b', hrun, hl', hx', hreach⟩ := hx.run_reach_cases h ha hl wanted
  refine ⟨t', s', b', hrun, hl', hx', ?_⟩
  rcases hreach with ⟨rfl, rfl, hzero | hlt⟩ | ⟨hle, rfl⟩
  · exact .inl hzero
  · right
    omega
  · -- What comes are as many entries as were missing, and fewer than the margin are lost.
    by_cases hb : b ≤ max (wanted - t.length) minimumPagination
    · exact .inl (Nat.sub_eq_zero_of_le hb)
    · have hgain := hx.length_eq_add hx' (Nat.sub_le _ _)
      have hkept := hregular.length_le (b := b - max (wanted - t.length) minimumPagination)
        (hx.le.trans hx.le_length)
      right
      omega

end

/-- A page of a timeline is the same page of the full history, in its events and in its marks, if
its anchor is held or among the entries just before what is held; with any other anchor there is
no page. From an anchor on, the events are those of the history up to it: what is held beyond the
page, and what is newer than the anchor, makes no difference to them. -/
theorem getPage_eq_historyPage {σ : Type} {hs : Homeserver σ} {room : String}
    {log : σ → List Event} {x : Config σ} (h : ServesLog hs room log)
    (ha : AnswersMessages hs room log) (hx : Reachable hs room (Grows log) x)
    (hregular : Regular (log x.server)) (anchor : String) (offset pageSize : Nat) :
    ∃ b f r t' s', Mirrors (log x.server) x.timeline b f ∧
      (x.timeline.getPage room anchor offset pageSize).run hs x.server = (some (r, t'), s') ∧
      (∀ a, Anchored (log x.server) b f anchor a →
        r = .ok (historyPage (history (log x.server) f) (a + offset) pageSize)) ∧
      ((∀ a, ¬ Anchored (log x.server) b f anchor a) → r = .error (.anchorNotFound room anchor)) ∧
      ∀ i e page, anchor ≠ "" → (log x.server)[i]? = some e → e.id = anchor → r = .ok page →
        page.events = ((history (log x.server) (i + 1)).drop offset).take pageSize := by
  obtain ⟨b, f, hb⟩ := hx.mirrors h
  have hf : f ≤ Count.limit := hb.le_length.trans hregular.countable
  obtain ⟨r, t₁, s₁, b₁, hrun₁, hl₁, hb₁, hr, he⟩ :=
    hb.run_anchorIndex h ha List.prefix_rfl hregular.distinct anchor
  cases r with
  | error e =>
      have hnone (a : Nat) : ¬ Anchored (log x.server) b f anchor a := by
        rw [← hr]
        nofun
      refine ⟨b, f, .error e, t₁, s₁, hb, ?_, ?_, ?_, ?_⟩
      · rw [getPage, Exchange.run_bind_of_run hrun₁]
        rfl
      · intro a hfound
        exact absurd hfound (hnone a)
      · intro _
        rw [he e rfl]
      · intro i e' page _ _ _ hok
        cases hok
  | ok a =>
      obtain ⟨t₂, s₂, b₂, hrun₂, hl₂, hb₂, hreach⟩ :=
        hb₁.run_reach h ha hl₁ hregular (wanted a offset pageSize)
      have hreach' : b₂ = 0 ∨ a + offset + pageSize < t₂.length := by
        rcases hreach with hzero | ⟨hlt, hwanted⟩
        · exact .inl hzero
        · -- The position to reach lies in the log, so none of the sums met the limit.
          right
          simp only [wanted, Count.add, safetyMargin] at hlt hwanted
          omega
      have hpage := hb₂.page_eq_historyPage hf hreach'
      refine ⟨b, f, .ok (historyPage (history (log x.server) f) (a + offset) pageSize), t₂, s₂, hb,
        ?_, ?_, ?_, ?_⟩
      · rw [getPage, Exchange.run_bind_of_run hrun₁]
        simp only [Int.natCast_nonneg, if_true, Int.toNat_natCast]
        rw [Exchange.run_bind_of_run hrun₂, ← hpage]
        rfl
      · intro a' ha'
        cases (hr a').2 ha'
        rfl
      · intro hnone
        exact absurd ((hr a).1 rfl) (hnone a)
      · rintro i e page hanchor hi hid ⟨⟩
        obtain ⟨-, e', ha', hid', -⟩ := ((hr a).1 rfl).resolve_left fun hempty => hanchor hempty.1
        have hdrop := drop_history hregular.distinct ha' hi (hid'.trans hid.symm)
        simp only [historyPage, ← hdrop, List.drop_drop]

end RoomReader.Timeline

/-! The small room, loaded with its newest message. Its oldest one is found among the entries just
before, beyond the redaction. -/

namespace RoomReader.SmallRoom

open RoomReader.Timeline

theorem reachable_seeded :
    Reachable (LogServer.serving room) room (Grows (LogServer.historyOf room)) seeded :=
  ⟨seeded, ⟨1, early, _, 0, rfl, rfl⟩, .refl⟩

theorem regular_early : Regular (LogServer.historyOf room early) := by
  constructor <;> decide

theorem page_of_oldest :
    ∃ t s, (seeded.timeline.getPage room "$0" 0 5).run (LogServer.serving room) early =
      (some (.ok { events := [.message "$0"], atTopEnd := true }, t), s) := by
  obtain ⟨b, f, r, t, s, hb, hrun, hpage, -, -⟩ := getPage_eq_historyPage
    (LogServer.servesLog room) (LogServer.answersMessages room) reachable_seeded regular_early
    "$0" 0 5
  have hback : Position.token 2 = Position.token b := hb.backToken
  have hforward : Position.token 3 = Position.token f := hb.forwardToken
  obtain rfl := Position.token_inj.1 hback
  obtain rfl := Position.token_inj.1 hforward
  have hanchored : Anchored (LogServer.historyOf room early) 2 3 "$0" 1 :=
    .inr ⟨by decide, .message "$0", rfl, rfl, .head _⟩
  rw [hpage 1 hanchored] at hrun
  exact ⟨t, s, hrun⟩

end RoomReader.SmallRoom
