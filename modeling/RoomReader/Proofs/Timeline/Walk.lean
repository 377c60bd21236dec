import RoomReader.Proofs.Timeline.Paging

namespace RoomReader.Timeline

/-!
# Reading back page by page

A reader begins at the newest event and goes on behind the last event of each page, until a page
touches the old end of the buffer. The pages then add up to the buffer. The buffer is all of the
history unless redactions have used up a page and its margin.
-/

/-- The pages that such a reader gets, with the timeline and the homeserver in the end. Between two
pages the homeserver may change by itself. -/
inductive Walk {σ : Type} (hs : Homeserver σ) (room : String) (pageSize : Nat) :
    (Nat → σ → σ) → String → Nat → Timeline → σ → List EventPage → Timeline → σ → Prop
  | last {drift : Nat → σ → σ} {anchor : String} {offset : Nat} {t t' : Timeline} {s s' : σ}
      {page : EventPage}
      (h : (t.getPage room anchor offset pageSize).run hs s = (some (.ok page, t'), s'))
      (hend : page.atTopEnd ∨ page.events = []) :
      Walk hs room pageSize drift anchor offset t s [page] t' s'
  | next {drift : Nat → σ → σ} {anchor : String} {offset : Nat} {t t' t'' : Timeline}
      {s s' s'' : σ} {page : EventPage} {e : Event} {pages : List EventPage}
      (h : (t.getPage room anchor offset pageSize).run hs s = (some (.ok page, t'), s'))
      (hmore : page.atTopEnd = false) (hlast : page.events.getLast? = some e)
      (rest : Walk hs room pageSize (fun i => drift (i + 1)) e.id 1 t' (drift 0 s') pages t'' s'') :
      Walk hs room pageSize drift anchor offset t s (page :: pages) t'' s''

/-- The most that is asked for at once to read a page behind what has been read. -/
def pageSpan (pageSize : Nat) : Nat := max minimumPagination (pageSize + safetyMargin)

/-- What is asked for at once always leaves more than a page when its redactions are dropped. -/
def Sparse (l : List Event) (pageSize : Nat) : Prop :=
  ∀ i, ((between l i (i + pageSpan pageSize)).filter Event.isRedaction).length + pageSize <
    pageSpan pageSize

theorem sparse_of_length_lt {l : List Event}
    (h : (l.filter Event.isRedaction).length < safetyMargin) (pageSize : Nat) :
    Sparse l pageSize := by
  intro i
  have hle := ((between_sublist l i (i + pageSpan pageSize)).filter Event.isRedaction).length_le
  simp only [pageSpan, minimumPagination, safetyMargin] at *
  omega

section

variable {l : List Event} {t t' : Timeline} {b b' f read pageSize : Nat} {anchor : String}
  {offset : Nat}

/-- An older old end adds to the buffer at its end. -/
theorem Mirrors.events_isPrefix (h : Mirrors l t b f) (h' : Mirrors l t' b' f) (hle : b' ≤ b) :
    t.events <+: t'.events := by
  have hjoin : between l b' b ++ between l b f = between l b' f := between_append hle h.le
  refine ⟨(kept (between l b' b)).reverse, ?_⟩
  rw [h.events, h'.events, ← hjoin, kept_append, List.reverse_append]

theorem Mirrors.mem_log (h : Mirrors l t b f) {e : Event} (he : e ∈ t.events) : e ∈ l := by
  rw [h.events, List.mem_reverse] at he
  exact (between_sublist l b f).subset (List.mem_of_mem_filter he)

theorem Mirrors.position?_of_getElem? (h : Mirrors l t b f) (hd : (l.map Event.id).Nodup) {a : Nat}
    {e : Event} (ha : t.events[a]? = some e) : t.position? e.id = some a := by
  have hlt := (List.getElem?_eq_some_iff.1 ha).1
  refine (h.position?_eq_some_iff hd).2 ⟨e, ?_, rfl, ?_⟩
  · rw [h.history_eq, List.getElem?_append_left hlt, ha]
  · have hmem := List.mem_of_getElem? ha
    rw [h.events, List.mem_reverse] at hmem
    exact List.mem_of_mem_filter hmem

/-- The anchor and the offset stand for the number of events that have been read. -/
inductive Bookmark (t : Timeline) : String → Nat → Nat → Prop
  | start : Bookmark t "" 0 0
  | behind {a : Nat} {e : Event} (ha : t.events[a]? = some e) (hid : e.id ≠ "") :
      Bookmark t e.id 1 (a + 1)

theorem Bookmark.le_length (h : Bookmark t anchor offset read) : read ≤ t.length := by
  cases h with
  | start => exact Nat.zero_le _
  | behind ha _ => exact (List.getElem?_eq_some_iff.1 ha).1

variable {σ : Type} {hs : Homeserver σ} {room : String} {log : σ → List Event} {s : σ}

theorem Bookmark.indexOf (hmark : Bookmark t anchor offset read) (h : Mirrors l t b f)
    (hd : (l.map Event.id).Nodup) : ∃ a, a + offset = read ∧ t.IndexOf anchor a := by
  cases hmark with
  | start => exact ⟨0, rfl, .inl ⟨rfl, rfl⟩⟩
  | @behind a e ha hid => exact ⟨a, rfl, .inr ⟨hid, h.position?_of_getElem? hd ha⟩⟩

/-- More than a page lies behind what has been read, or everything is held. -/
theorem Mirrors.page_lt_length (h : Mirrors l t b f) (h' : Mirrors l t' b' f)
    (hsparse : Sparse l pageSize) (hread : read ≤ t.length)
    (hb : b' = b - max (read + pageSize + safetyMargin - t.length) minimumPagination) :
    b' = 0 ∨ read + pageSize < t'.length := by
  by_cases hzero : b' = 0
  · exact .inl hzero
  · right
    have hb' : b' ≤ b := by omega
    have hspan : b ≤ b' + pageSpan pageSize := by
      simp only [pageSpan]
      omega
    have hgain := h.length_eq_add h' hb'
    have hkept := length_kept (between l b' b)
    rw [length_between (h.le.trans h.le_length)] at hkept
    -- The redactions among what comes are some of those in the whole span.
    have hwindow : (between l b' b).Sublist (between l b' (b' + pageSpan pageSize)) := by
      rw [← between_append hb' hspan]
      exact List.sublist_append_left _ _
    have hlost := (hwindow.filter Event.isRedaction).length_le
    have hfew := hsparse b'
    simp only [pageSpan, minimumPagination, safetyMargin] at *
    omega

/-- One page more: it shows what comes behind the events that have been read. -/
theorem Bookmark.run_getPage (hmark : Bookmark t anchor offset read) (hx : Mirrors l t b f)
    (h : ServesLog hs room log) (ha : AnswersMessages hs room log) (hl : l <+: log s)
    (hd : (l.map Event.id).Nodup) (hf : f ≤ Count.limit) (pageSize : Nat) :
    ∃ t' s' b', (t.getPage room anchor offset pageSize).run hs s =
        (some (.ok (t'.page read (min (read + pageSize) t'.length)), t'), s') ∧
      l <+: log s' ∧ Mirrors l t' b' f ∧ t.events <+: t'.events ∧
      (Sparse l pageSize → b' = 0 ∨ read + pageSize < t'.length) := by
  obtain ⟨a, rfl, hindex⟩ := hmark.indexOf hx hd
  obtain ⟨t', s', b', hreach, hl', hx', hcases⟩ :=
    hx.run_reach_cases h ha hl (wanted a offset pageSize)
  have hlength := hx.length_le
  have hle : b' ≤ b := by
    rcases hcases with ⟨-, rfl, -⟩ | ⟨-, rfl⟩
    · exact le_rfl
    · exact Nat.sub_le _ _
  have hgrown := hx.events_isPrefix hx' hle
  have hread : a + offset ≤ t'.length := hmark.le_length.trans hgrown.length_le
  refine ⟨t', s', b', ?_, hl', hx', hgrown, ?_⟩
  · have hlimit : t'.length ≤ Count.limit := by
      have := hx'.length_le
      omega
    rw [getPage, hindex.anchorIndex_eq, Exchange.done_bind]
    simp only [Int.natCast_nonneg, if_true, Int.toNat_natCast]
    rw [Exchange.run_bind_of_run hreach, olderWindow_eq hlimit, Nat.min_eq_left hread]
    rfl
  · intro hsparse
    rcases hcases with ⟨rfl, rfl, hzero | hlt⟩ | ⟨hwanted, hb⟩
    · exact .inl hzero
    · -- The buffer has as many events as a count can tell, or reaches beyond the margin.
      right
      simp only [wanted, Count.add, safetyMargin] at hlt
      omega
    · by_cases hzero : b' = 0
      · exact .inl hzero
      · refine hx.page_lt_length hx' hsparse hmark.le_length ?_
        simp only [wanted, Count.add] at hwanted hb
        omega

/-- Behind a page that does not touch the old end a reader can go on. -/
theorem Bookmark.next (hx : Mirrors l t b f) (hne : ∀ e ∈ l, e.id ≠ "") (hpage : 0 < pageSize)
    (hlt : read + pageSize < t.length) :
    ∃ e, (t.page read (read + pageSize)).events.getLast? = some e ∧
      Bookmark t e.id 1 (read + pageSize) := by
  obtain ⟨n, rfl⟩ : ∃ n, pageSize = n + 1 := ⟨pageSize - 1, by omega⟩
  have hlast : read + n < t.events.length := by
    have : read + (n + 1) < t.events.length := hlt
    omega
  have hget := List.getElem?_eq_getElem hlast
  refine ⟨t.events[read + n], ?_, .behind hget (hne _ (hx.mem_log (List.getElem_mem hlast)))⟩
  have hlength : ((t.events.take (read + (n + 1))).drop read).length = n + 1 := by
    rw [List.length_drop, List.length_take]
    omega
  rw [page, List.getLast?_eq_getElem?, hlength, List.getElem?_drop, Nat.add_sub_cancel,
    List.getElem?_take_of_lt (by omega), hget]

/-- A page behind what has been read joins on to it. -/
theorem take_append_page {stop : Nat} (hgrown : t.events <+: t'.events) (hread : read ≤ t.length)
    (hstop : read ≤ stop) :
    t.events.take read ++ (t'.page read stop).events = t'.events.take stop := by
  have htake : t.events.take read = (t'.events.take stop).take read := by
    rw [List.take_take, Nat.min_eq_left hstop, take_eq_take_of_isPrefix hgrown hread]
  rw [htake, page, List.take_append_drop]

/-- A page that ends the walk reaches the old end of the buffer. -/
theorem length_le_of_end (hread : read ≤ t.length) (hpage : 0 < pageSize)
    (hend : (t.page read (min (read + pageSize) t.length)).atTopEnd ∨
      (t.page read (min (read + pageSize) t.length)).events = []) :
    t.length ≤ read + pageSize := by
  rcases hend with htop | hnil
  · have hstop : min (read + pageSize) t.length = t.length := beq_iff_eq.1 htop
    omega
  · have hnone := congrArg List.length hnil
    simp only [page, List.length_drop, List.length_take, List.length_nil, length] at *
    omega

/-- From a bookmark on, the pages add up to the rest of the buffer. -/
theorem Walk.append_pages {drift : Nat → σ → σ} {pages : List EventPage} {s' : σ}
    (hwalk : Walk hs room pageSize drift anchor offset t s pages t' s')
    (hmark : Bookmark t anchor offset read) (hx : Mirrors l t b f) (h : ServesLog hs room log)
    (ha : AnswersMessages hs room log) (hl : l <+: log s) (hd : (l.map Event.id).Nodup)
    (hne : ∀ e ∈ l, e.id ≠ "") (hf : f ≤ Count.limit) (hpage : 0 < pageSize)
    (hdrift : ∀ i s, Grows log s (drift i s)) :
    t.events.take read ++ pages.flatMap (·.events) = t'.events ∧
      ∃ b', Mirrors l t' b' f ∧ (Sparse l pageSize → b' = 0) := by
  induction hwalk generalizing b read with
  | @last drift anchor offset t t' s s' page hrun hend =>
      obtain ⟨t₁, s₁, b₁, hrun₁, -, hx₁, hgrown, hsparse⟩ :=
        hmark.run_getPage hx h ha hl hd hf pageSize
      rw [hrun] at hrun₁
      cases hrun₁
      have hread : read ≤ t'.length := hmark.le_length.trans hgrown.length_le
      have hlength := length_le_of_end hread hpage hend
      refine ⟨?_, b₁, hx₁, fun h => (hsparse h).resolve_right (by omega)⟩
      rw [List.flatMap_singleton, take_append_page hgrown hmark.le_length (by omega),
        Nat.min_eq_right hlength]
      exact List.take_length
  | @next drift anchor offset t t' t'' s s' s'' page e pages hrun hmore hlast _ ih =>
      obtain ⟨t₁, s₁, b₁, hrun₁, hl₁, hx₁, hgrown, -⟩ :=
        hmark.run_getPage hx h ha hl hd hf pageSize
      rw [hrun] at hrun₁
      cases hrun₁
      have hstop : min (read + pageSize) t'.length ≠ t'.length := beq_eq_false_iff_ne.1 hmore
      have hlt : read + pageSize < t'.length := by omega
      rw [Nat.min_eq_left hlt.le] at hlast ⊢
      obtain ⟨e', he', hmark'⟩ := Bookmark.next hx₁ hne hpage hlt
      rw [hlast] at he'
      cases he'
      obtain ⟨hpages, hend⟩ := ih hmark' hx₁ (hl₁.trans (hdrift 0 s')) fun i => hdrift (i + 1)
      refine ⟨?_, hend⟩
      rw [List.flatMap_cons, ← List.append_assoc,
        take_append_page hgrown hmark.le_length (Nat.le_add_right _ _), hpages]

/-- A walk comes to its end: every page but the last leaves less of the history to read. -/
theorem Bookmark.exists_walk {drift : Nat → σ → σ} (hmark : Bookmark t anchor offset read)
    (hx : Mirrors l t b f) (h : ServesLog hs room log) (ha : AnswersMessages hs room log)
    (hl : l <+: log s) (hd : (l.map Event.id).Nodup) (hne : ∀ e ∈ l, e.id ≠ "")
    (hf : f ≤ Count.limit) (hpage : 0 < pageSize) (hdrift : ∀ i s, Grows log s (drift i s)) :
    ∃ pages t' s', Walk hs room pageSize drift anchor offset t s pages t' s' := by
  -- The buffer may grow with every page, so what shrinks is the unread rest of the history.
  generalize hleft : (history l f).length - read = left
  induction left using Nat.strongRecOn generalizing drift anchor offset t s b read with
  | ind left ih =>
      obtain ⟨t₁, s₁, b₁, hrun, hl₁, hx₁, -, -⟩ := hmark.run_getPage hx h ha hl hd hf pageSize
      cases hmore : (t₁.page read (min (read + pageSize) t₁.length)).atTopEnd with
      | true => exact ⟨_, _, _, .last hrun (.inl hmore)⟩
      | false =>
          have hstop : min (read + pageSize) t₁.length ≠ t₁.length := beq_eq_false_iff_ne.1 hmore
          have hlt : read + pageSize < t₁.length := by omega
          rw [Nat.min_eq_left hlt.le] at hrun hmore
          obtain ⟨e, hlast, hmark'⟩ := Bookmark.next hx₁ hne hpage hlt
          have hheld : t₁.length ≤ (history l f).length := by
            rw [hx₁.history_eq, List.length_append]
            exact Nat.le_add_right _ _
          obtain ⟨pages, t', s', hwalk⟩ := ih _ (by omega) hmark' hx₁
            (hl₁.trans (hdrift 0 s₁)) (fun i => hdrift (i + 1)) rfl
          exact ⟨_, _, _, .next hrun hmore hlast hwalk⟩

end

/-- Reading back page by page from the newest event comes to an end, whatever is appended meanwhile,
and shows what the buffer holds in the end: the newest events of the history that the room was
loaded with, each once and without a gap. If what is asked for at once always leaves more than a
page, it is all of that history. -/
theorem walk_reads_history {σ : Type} {hs : Homeserver σ} {room : String} {log : σ → List Event}
    {x : Config σ} (h : ServesLog hs room log) (ha : AnswersMessages hs room log)
    (hx : Seeded hs room x) (hdistinct : ((log x.server).map Event.id).Nodup)
    (hnonempty : ∀ e ∈ log x.server, e.id ≠ "") (hcount : (log x.server).length ≤ Count.limit)
    {pageSize : Nat} (hpage : 0 < pageSize) (drift : Nat → σ → σ)
    (hdrift : ∀ i s, Grows log s (drift i s)) {s : σ} (hs' : Grows log x.server s) :
    (∃ pages t s', Walk hs room pageSize drift "" 0 x.timeline s pages t s') ∧
      ∀ pages t s', Walk hs room pageSize drift "" 0 x.timeline s pages t s' →
        pages.flatMap (·.events) = t.events ∧
        pages.flatMap (·.events) <+: (kept (log x.server)).reverse ∧
        (Sparse (log x.server) pageSize →
          pages.flatMap (·.events) = (kept (log x.server)).reverse) := by
  obtain ⟨limit, s₀, sync, now, hsync, htimeline⟩ := hx
  have hb : Mirrors _ (Room.ofSync room now sync).timeline _ _ := mirrors_ofSync (h.sync hsync)
  rw [← htimeline] at hb
  have hhistory : history (log x.server) (log x.server).length = (kept (log x.server)).reverse := by
    rw [history, List.take_length]
  refine ⟨Bookmark.start.exists_walk hb h ha hs' hdistinct hnonempty hcount hpage hdrift, ?_⟩
  intro pages t s' hwalk
  obtain ⟨hpages, b, ht, hsparse⟩ := hwalk.append_pages .start hb h ha hs' hdistinct hnonempty
    hcount hpage hdrift
  rw [List.take_zero, List.nil_append] at hpages
  rw [← hhistory, ht.history_eq, hpages]
  refine ⟨rfl, List.prefix_append _ _, ?_⟩
  intro h
  rw [hsparse h]
  simp [history]

end RoomReader.Timeline

/-! The small room is read back in two pages. If a whole answer is made of redactions, a walk ends
before it has come to what lies behind them, and behind an event without an id it never ends. -/

namespace RoomReader.SmallRoom

open RoomReader.Timeline

theorem seeded_seeded : Seeded (LogServer.serving room) room seeded := ⟨1, early, _, 0, rfl, rfl⟩

theorem walked_seeded :
    ∃ pages t s, Walk (LogServer.serving room) room 1 (fun _ s => s) "" 0 seeded.timeline early
        pages t s ∧
      pages.flatMap (·.events) = [.message "$2", .message "$0"] := by
  have hpage : 0 < 1 := Nat.one_pos
  obtain ⟨⟨pages, t, s, hwalk⟩, hpages⟩ := walk_reads_history (LogServer.servesLog room)
    (LogServer.answersMessages room) seeded_seeded regular_early.distinct (by decide)
    regular_early.countable hpage (fun _ s => s) (fun _ _ => List.prefix_rfl) List.prefix_rfl
  exact ⟨pages, t, s, hwalk,
    (hpages pages t s hwalk).2.2 (sparse_of_length_lt regular_early.redactions 1)⟩

/-- Two messages with as many redactions between them as are asked for at once. -/
def redacted : List Event :=
  .message "$0" :: (List.range 64).map (fun n => .redacting (Position.token n)) ++ [.message "$1"]

def redactedRoom : LogServer.With room := LogServer.holding room redacted (by decide)

def ofNewest : Timeline :=
  { events := [.message "$1"], backToken := "t65", forwardToken := "t66" }

/-- Three messages, and the one in the middle has an empty id. -/
def nameless : List Event := [.message "$0", .message "", .message "$1"]

def namelessRoom : LogServer.With room := LogServer.holding room nameless (by decide)

def ofNameless : Timeline :=
  { events := [.message "$1", .message "", .message "$0"], backToken := "t0", forwardToken := "t3" }

/-- Behind the event without an id the anchor is empty, which stands for the newest event. -/
theorem not_walk_behind_nameless {drift : Nat → LogServer.With room → LogServer.With room}
    {anchor : String} {offset : Nat} {t t' : Timeline} {s s' : LogServer.With room}
    {pages : List EventPage}
    (hwalk : Walk (LogServer.serving room) room 1 drift anchor offset t s pages t' s')
    (hdrift : ∀ i s, drift i s = s) (hanchor : anchor = "") (hoffset : offset = 1)
    (ht : t = { ofNameless with historicEndReached := true }) (hs : s = namelessRoom) : False := by
  have hrun : (({ ofNameless with historicEndReached := true } : Timeline).getPage room ""
      ((1 : Nat) : Int) 1).run (LogServer.serving room) namelessRoom =
      (some (.ok { events := [.message ""] }, { ofNameless with historicEndReached := true }),
        namelessRoom) := rfl
  induction hwalk with
  | last h hend =>
      subst hanchor hoffset ht hs
      cases hrun.symm.trans h
      simp at hend
  | next h _ hlast _ ih =>
      subst hanchor hoffset ht hs
      cases hrun.symm.trans h
      cases hlast
      exact ih (fun i => hdrift (i + 1)) rfl rfl rfl (hdrift 0 _)

theorem walk_falls_short :
    (Seeded (LogServer.serving room) room ⟨ofNewest, {}, redactedRoom⟩ ∧
      (redacted.map Event.id).Nodup ∧
      ∃ pages t s, Walk (LogServer.serving room) room 1 (fun _ s => s) "" 0 ofNewest redactedRoom
          pages t s ∧
        pages.flatMap (·.events) ≠ (kept redacted).reverse) ∧
    Seeded (LogServer.serving room) room ⟨ofNameless, {}, namelessRoom⟩ ∧
      (nameless.map Event.id).Nodup ∧
      ∀ pages t s, ¬ Walk (LogServer.serving room) room 1 (fun _ s => s) "" 0 ofNameless
        namelessRoom pages t s := by
  refine ⟨⟨⟨1, redactedRoom, _, 0, rfl, rfl⟩, by decide +kernel, ?_⟩,
    ⟨3, namelessRoom, _, 0, rfl, rfl⟩, by decide, ?_⟩
  · refine ⟨_, _, _, .last rfl (.inl rfl), ?_⟩
    intro h
    exact absurd (congrArg List.length h) (by decide)
  · intro pages t s hwalk
    have hfirst : (ofNameless.getPage room "" ((0 : Nat) : Int) 1).run (LogServer.serving room)
        namelessRoom = (some (.ok { events := [.message "$1"], atBottomEnd := true },
          { ofNameless with historicEndReached := true }), namelessRoom) := rfl
    have hsecond : (({ ofNameless with historicEndReached := true } : Timeline).getPage room "$1"
        ((1 : Nat) : Int) 1).run (LogServer.serving room) namelessRoom =
        (some (.ok { events := [.message ""] }, { ofNameless with historicEndReached := true }),
          namelessRoom) := rfl
    cases hwalk with
    | last h hend =>
        cases hfirst.symm.trans h
        simp at hend
    | next h _ hlast hrest =>
        cases hfirst.symm.trans h
        cases hlast
        cases hrest with
        | last h hend =>
            cases hsecond.symm.trans h
            simp at hend
        | next h _ hlast hrest =>
            cases hsecond.symm.trans h
            cases hlast
            exact not_walk_behind_nameless hrest (fun _ _ => rfl) rfl rfl rfl rfl

end RoomReader.SmallRoom
