import RoomReader.Proofs.Timeline.Mirror

namespace RoomReader.Timeline

/-!
# Pages of the full history

The history up to a position is what a timeline would hold if it had everything: the entries before
that position without the redactions, newest first. What a timeline holds is its newer part, so an
event that is held has the same index in both. A page of the timeline is a page of the history if
the timeline reaches beyond the page or holds everything.
-/

/-- The events before position `f`, newest first. -/
def history (l : List Event) (f : Nat) : List Event := (kept (l.take f)).reverse

/-- The page of a whole list of events from `start` on. -/
def historyPage (events : List Event) (start pageSize : Nat) : EventPage :=
  { events := (events.drop start).take pageSize
    atTopEnd := decide (events.length ≤ start + pageSize)
    atBottomEnd := decide (min start events.length = 0) }

/-- The entries are distinct, few of them are redactions, and their number is a count. -/
structure Regular (l : List Event) : Prop where
  distinct : (l.map Event.id).Nodup
  redactions : (l.filter Event.isRedaction).length < safetyMargin
  countable : l.length ≤ Count.limit

section

variable {l l' : List Event} {t : Timeline} {b c f i a n pageSize : Nat} {e e' : Event}

theorem length_kept (l : List Event) :
    (kept l).length + (l.filter Event.isRedaction).length = l.length := by
  induction l with
  | nil => rfl
  | cons e l ih =>
      by_cases he : e.isRedaction = true <;> simp_all [kept] <;> omega

theorem Regular.length_le (hl : Regular l) (hc : c ≤ l.length) :
    c - b < (kept (between l b c)).length + safetyMargin := by
  have hlength := length_kept (between l b c)
  rw [length_between hc] at hlength
  have hfew := hl.redactions
  have := ((between_sublist l b c).filter Event.isRedaction).length_le
  omega

theorem history_eq_append (hbf : b ≤ f) :
    history l f = (kept (between l b f)).reverse ++ history l b := by
  have hjoin : l.take b ++ between l b f = l.take f := by
    simpa using between_append (l := l) (Nat.zero_le b) hbf
  rw [history, history, ← hjoin, kept_append, List.reverse_append]

theorem Mirrors.history_eq (h : Mirrors l t b f) : history l f = t.events ++ history l b := by
  rw [h.events, history_eq_append h.le]

theorem Mirrors.length_le (h : Mirrors l t b f) : t.length + b ≤ f := by
  have hlength : (kept (between l b f)).length ≤ f - b := by
    rw [← length_between (i := b) h.le_length]
    exact List.length_filter_le _ _
  have hle := h.le
  simp only [length, h.events, List.length_reverse]
  omega

/-- Of two timelines with one new end, the longer one holds the stretch between the old ends in
addition. -/
theorem Mirrors.length_eq_add {t' : Timeline} (h : Mirrors l t b f) (h' : Mirrors l t' c f)
    (hcb : c ≤ b) : t'.length = (kept (between l c b)).length + t.length := by
  have hjoin : between l c b ++ between l b f = between l c f := between_append hcb h.le
  simp only [length, h.events, h'.events, ← hjoin, kept_append, List.length_reverse,
    List.length_append]

theorem Mirrors.of_isPrefix_of_le (h : Mirrors l' t b f) (hl : l <+: l') (hf : f ≤ l.length) :
    Mirrors l t b f where
  le := h.le
  le_length := hf
  backToken := h.backToken
  forwardToken := h.forwardToken
  events := by rw [h.events, between_eq_of_isPrefix hl hf]
  historicEnd := h.historicEnd

/-! ## The index of an event -/

theorem nodup_history (hl : (l.map Event.id).Nodup) : ((history l f).map Event.id).Nodup := by
  have hsub : (kept (l.take f)).Sublist l := List.filter_sublist.trans (List.take_sublist _ _)
  rw [history, List.map_reverse, List.nodup_reverse]
  exact hl.sublist (hsub.map _)

theorem index_unique {events : List Event} (hd : (events.map Event.id).Nodup)
    (ha : events[a]? = some e) (hc : events[c]? = some e') (hid : e.id = e'.id) : a = c := by
  have hlt : a < (events.map Event.id).length := by
    rw [List.length_map]
    exact (List.getElem?_eq_some_iff.1 ha).1
  apply (List.getElem?_inj hlt hd).1
  simp [ha, hc, hid]

/-- An event of the history that lies in the stretch is held, and one that is held lies there. -/
theorem Mirrors.position?_eq_some_iff (h : Mirrors l t b f) (hl : (l.map Event.id).Nodup)
    {anchor : String} :
    t.position? anchor = some a ↔
      ∃ e, (history l f)[a]? = some e ∧ e.id = anchor ∧ e ∈ between l b f := by
  have hd := nodup_history (f := f) hl
  have hheld {i : Nat} (hi : i < t.events.length) : (history l f)[i]? = some t.events[i] := by
    rw [h.history_eq, List.getElem?_append_left hi, List.getElem?_eq_getElem hi]
  rw [position?, List.findIdx?_eq_some_iff_getElem]
  constructor
  · rintro ⟨hlt, hid, -⟩
    have hmem : t.events[a] ∈ (kept (between l b f)).reverse := h.events ▸ List.getElem_mem hlt
    refine ⟨t.events[a], hheld hlt, by simpa using hid, ?_⟩
    exact List.mem_of_mem_filter (List.mem_reverse.1 hmem)
  · rintro ⟨e, ha, hid, hmem⟩
    have hkept : e ∈ kept (l.take f) := List.mem_reverse.1 (List.mem_of_getElem? ha)
    have hevent : e ∈ t.events := by
      rw [h.events, List.mem_reverse]
      exact List.mem_filter.2 ⟨hmem, (List.mem_filter.1 hkept).2⟩
    obtain ⟨i, hi, rfl⟩ := List.getElem_of_mem hevent
    obtain rfl : a = i := index_unique hd ha (hheld hi) rfl
    refine ⟨hi, by simpa using hid, fun j hj hji => ?_⟩
    have hji' : t.events[j].id = t.events[a].id := by
      rw [hid]
      simpa using hji
    exact absurd (index_unique hd (hheld (hj.trans hi)) (hheld hi) hji') (Nat.ne_of_lt hj)

/-- From the index of an entry on, the history is the one up to and with that entry. -/
theorem drop_history (hl : (l.map Event.id).Nodup) (ha : (history l f)[a]? = some e)
    (hi : l[i]? = some e') (hid : e.id = e'.id) : (history l f).drop a = history l (i + 1) := by
  have hlt : i < l.length := (List.getElem?_eq_some_iff.1 hi).1
  have hkept : e ∈ kept (l.take f) := List.mem_reverse.1 (List.mem_of_getElem? ha)
  obtain ⟨j, hj, hje⟩ := List.getElem_of_mem (List.mem_of_mem_filter hkept)
  have hj' : j < f ∧ j < l.length := Nat.lt_min.1 (by simpa using hj)
  have hje' : l[j]? = some e := by
    rw [List.getElem?_eq_getElem hj'.2, ← hje, List.getElem_take]
  obtain rfl : j = i := index_unique hl hje' hi hid
  have hnew : history l (j + 1) = e :: history l j := by
    have htake : l.take (j + 1) = l.take j ++ [e] := by
      rw [List.take_add_one, hje', Option.toList_some]
    have hone : kept [e] = [e] := List.filter_cons_of_pos (List.mem_filter.1 hkept).2
    rw [history, htake, kept_append, hone, List.reverse_append]
    rfl
  have hsplit := history_eq_append (l := l) (b := j + 1) hj'.1
  have hindex : (history l f)[(kept (between l (j + 1) f)).length]? = some e := by
    rw [hsplit, hnew, List.getElem?_append_right (by simp)]
    simp
  obtain rfl := index_unique (nodup_history (f := f) hl) ha hindex rfl
  rw [hsplit, List.drop_append_of_le_length (by simp), List.drop_of_length_le (by simp),
    List.nil_append]

/-! ## Windows -/

theorem olderWindow_eq {length anchor offset : Nat} (hlength : length ≤ Count.limit) :
    olderWindow length anchor offset pageSize =
      (min (anchor + offset) length, min (min (anchor + offset) length + pageSize) length) := by
  simp only [olderWindow, Count.add, Prod.mk.injEq]
  omega

theorem take_drop_window {α : Type} (xs : List α) (start pageSize : Nat) :
    (xs.take (min (min start xs.length + pageSize) xs.length)).drop (min start xs.length) =
      (xs.drop start).take pageSize := by
  by_cases hstart : start ≤ xs.length
  · rw [Nat.min_eq_left hstart, List.drop_take, List.take_eq_take_iff, List.length_drop]
    omega
  · rw [Nat.min_eq_right (by omega), List.drop_of_length_le (by simp),
      List.drop_of_length_le (i := start) (by omega), List.take_nil]

/-- A timeline that holds everything, or something beyond a page, shows the page of the history. -/
theorem Mirrors.page_eq_historyPage (h : Mirrors l t b f) (hf : f ≤ Count.limit)
    (hreach : b = 0 ∨ a + n + pageSize < t.length) :
    t.page (olderWindow t.length a n pageSize).1 (olderWindow t.length a n pageSize).2 =
      historyPage (history l f) (a + n) pageSize := by
  have hlength : t.length ≤ Count.limit := by
    have := h.length_le
    omega
  have hhistory : (history l f).length = t.length + (history l b).length := by
    rw [h.history_eq, List.length_append, length]
  have hstart : b = 0 → (history l b).length = 0 := by
    rintro rfl
    simp [history]
  rw [olderWindow_eq hlength]
  simp only [page, historyPage, EventPage.mk.injEq]
  refine ⟨?_, ?_, ?_⟩
  · rw [length, take_drop_window, h.history_eq]
    rcases hreach with rfl | hreach
    · simp [history]
    · have hlt : a + n + pageSize < t.events.length := hreach
      have hdrop : a + n ≤ t.events.length := by omega
      have htake : pageSize ≤ (t.events.drop (a + n)).length := by
        rw [List.length_drop]
        omega
      rw [List.drop_append_of_le_length hdrop, List.take_append_of_le_length htake]
  · rw [hhistory, beq_eq_decide, decide_eq_decide]
    omega
  · rw [hhistory, beq_eq_decide, decide_eq_decide]
    omega

end

end RoomReader.Timeline
