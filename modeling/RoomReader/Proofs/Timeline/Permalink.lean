import Mathlib
import RoomReader.Proofs.Timeline.Paging

namespace RoomReader.Timeline

/-!
# Pages around an event

A link to an event is read with an offset toward the present, so that the page shows what came
after it as well. If the event is not held, each request asks for 100 older entries and finds it
once they reach so far. A request for an id that is nowhere in the log goes back to the start of the
log, learns that the history ends there, and asks no more.
-/

/-- Requests for one and the same page, with their answers in order. Between two of them the log may
grow. -/
inductive Asks {σ : Type} (hs : Homeserver σ) (room : String) (log : σ → List Event)
    (anchor : String) (offset : Int) (pageSize : Nat) :
    Timeline → σ → List (Except RoomError EventPage) → Timeline → σ → Prop
  | start {t : Timeline} {s : σ} : Asks hs room log anchor offset pageSize t s [] t s
  | next {t t' t'' : Timeline} {s s' s'' s''' : σ} {r : Except RoomError EventPage}
      {rs : List (Except RoomError EventPage)}
      (h : (t.getPage room anchor offset pageSize).run hs s = (some (r, t'), s'))
      (hgrown : Grows log s' s'')
      (rest : Asks hs room log anchor offset pageSize t' s'' rs t'' s''') :
      Asks hs room log anchor offset pageSize t s (r :: rs) t'' s'''

section

variable {t : Timeline} {a k pageSize : Nat}

/-! ## Windows around an anchor -/

/-- A window that begins before an anchor and is longer than the way there shows the anchor. It is
moved toward the present only if the buffer would end within it. -/
theorem newerWindow_around {length : Nat} (ha : a < length) (hk : k < pageSize)
    (hback : k ≤ 2 ^ 63) (hlength : length < 2 ^ 63) :
    (newerWindow length a k pageSize).1 ≤ a ∧ a < (newerWindow length a k pageSize).2 ∧
      (newerWindow length a k pageSize).2 ≤ length ∧
      (a ≤ (newerWindow length a k pageSize).1 + k ∨
        (length + k < a + pageSize ∧ (newerWindow length a k pageSize).2 = length)) := by
  simp only [newerWindow, Count.add, Count.limit]
  omega

theorem IndexOf.exists_event {anchor : String} (ha : t.IndexOf anchor a) (hanchor : anchor ≠ "") :
    ∃ e, t.events[a]? = some e ∧ e.id = anchor := by
  obtain ⟨-, hposition⟩ := ha.resolve_left fun h => hanchor h.1
  obtain ⟨hlt, hid, -⟩ := List.findIdx?_eq_some_iff_getElem.1 hposition
  exact ⟨t.events[a], List.getElem?_eq_getElem hlt, beq_iff_eq.1 hid⟩

/-- A page toward the present shows its anchor, behind `n` newer events. -/
theorem exists_window_around {anchor : String} (hanchor : anchor ≠ "") (ha : t.IndexOf anchor a)
    (hk : 0 < k) (hpage : k < pageSize) (hback : k ≤ 2 ^ 63) (hlength : t.length < 2 ^ 63) :
    ∃ start stop n e, start + n < stop ∧ stop ≤ t.length ∧
      (t.window a (-(k : Int)) pageSize).events = between t.events start stop ∧
      (t.window a (-(k : Int)) pageSize).events[n]? = some e ∧ e.id = anchor ∧
      (n ≤ k ∨ (t.length + k < start + n + pageSize ∧ stop = t.length)) := by
  obtain ⟨e, he, hid⟩ := ha.exists_event hanchor
  have hlt : a < t.length := (List.getElem?_eq_some_iff.1 he).1
  obtain ⟨hstart, hstop, hle, hnewer⟩ := newerWindow_around hlt hpage hback hlength
  have hneg : ¬ (0 : Int) ≤ -(k : Int) := by omega
  have hevents : (t.window a (-(k : Int)) pageSize).events =
      between t.events (newerWindow t.length a k pageSize).1
        (newerWindow t.length a k pageSize).2 := by
    rw [window, if_neg hneg, Int.natAbs_neg, Int.natAbs_natCast]
    rfl
  generalize newerWindow t.length a k pageSize = w at *
  obtain ⟨n, rfl⟩ := Nat.exists_eq_add_of_le hstart
  refine ⟨w.1, w.2, n, e, hstop, hle, hevents, ?_, hid, ?_⟩
  · rw [hevents, between, List.getElem?_drop, List.getElem?_take_of_lt hstop, he]
  · exact hnewer.imp_left Nat.le_of_add_le_add_left

end

section

variable {σ : Type} {hs : Homeserver σ} {room anchor : String} {log : σ → List Event}
  {l : List Event} {t t' : Timeline} {s s' : σ} {b f i j p pageSize : Nat} {e : Event}
  {offset : Int} {rs : List (Except RoomError EventPage)}

/-! ## What a look-up finds -/

theorem mem_between_iff (hd : (l.map Event.id).Nodup) (hp : l[p]? = some e) (hpf : p < f) :
    e ∈ between l i f ↔ i ≤ p := by
  constructor
  · intro hmem
    obtain ⟨n, hn⟩ := List.mem_iff_getElem?.1 hmem
    rw [between, List.getElem?_drop] at hn
    obtain ⟨hlt, -⟩ := List.getElem?_eq_some_iff.1 hn
    rw [List.length_take] at hlt
    rw [List.getElem?_take_of_lt (by omega)] at hn
    have := index_unique hd hn hp rfl
    omega
  · intro hle
    apply List.mem_iff_getElem?.2
    refine ⟨p - i, ?_⟩
    rw [between, List.getElem?_drop, Nat.add_sub_cancel' hle, List.getElem?_take_of_lt hpf, hp]

/-- An entry before what is held is found if it is among those that are asked for. -/
theorem exists_found_iff (hd : (l.map Event.id).Nodup) (hp : l[p]? = some e) (hpf : p < f)
    (hplain : e.isRedaction = false) :
    (∃ a, Found l b f e.id a) ↔ b - anchorBackfill ≤ p := by
  rw [← mem_between_iff hd hp hpf]
  constructor
  · rintro ⟨a, e', ha, hid, hmem⟩
    obtain ⟨n, hn⟩ := List.mem_iff_getElem?.1 ((between_sublist _ _ _).subset hmem)
    obtain rfl := index_unique hd hn hp hid
    rw [hp] at hn
    cases hn
    exact hmem
  · intro hmem
    have hkept : e ∈ history l f := by
      rw [history, List.mem_reverse]
      refine List.mem_filter.2 ⟨List.mem_of_mem_drop hmem, ?_⟩
      rw [hplain, Bool.not_false]
    obtain ⟨a, ha⟩ := List.mem_iff_getElem?.1 hkept
    exact ⟨a, e, ha, rfl, hmem⟩

theorem not_found_of_forall_ne (hnone : ∀ e ∈ l, e.id ≠ anchor) (a : Nat) :
    ¬ Found l b f anchor a := by
  rintro ⟨e, -, hid, hmem⟩
  exact hnone e ((between_sublist _ _ _).subset hmem) hid

theorem Mirrors.position?_eq_none (hx : Mirrors l t b f) (hd : (l.map Event.id).Nodup)
    (hnone : ∀ a, ¬ Found l b f anchor a) : t.position? anchor = none := by
  refine Option.eq_none_iff_forall_ne_some.2 fun a hi => ?_
  obtain ⟨e, hi, hid, hmem⟩ := (hx.position?_eq_some_iff hd).1 hi
  exact hnone a ⟨e, hi, hid, between_subset_between (Nat.sub_le _ _) hmem⟩

/-! ## One request -/

/-- An answer without entries tells that the history ends. -/
theorem historicEnd_of_backpaginate {amount received : Nat}
    (h : (t.backpaginate room amount).run hs s = (some (.ok received, t'), s'))
    (hzero : received = 0) : t'.historicEndReached = true := by
  simp only [backpaginate, Exchange.messages_bind] at h
  obtain ⟨reply, s₁, -, h⟩ := Exchange.run_ask_eq_some.1 h
  cases reply with
  | error e => cases h
  | ok m =>
      cases h
      simp [extendBack, List.length_eq_zero_iff.1 hzero]

/-- A look-up that finds nothing leaves a buffer that is deeper by what was asked for. -/
theorem Mirrors.run_anchorIndex_of_not_found (hx : Mirrors l t b f) (h : ServesLog hs room log)
    (ha : AnswersMessages hs room log) (hl : l <+: log s) (hd : (l.map Event.id).Nodup)
    (hanchor : anchor ≠ "") (hnone : ∀ a, ¬ Found l b f anchor a) :
    ∃ t' s', (t.anchorIndex room anchor).run hs s =
        (some (.error (.anchorNotFound room anchor), t'), s') ∧ l <+: log s' ∧
      Mirrors l t' (b - anchorBackfill) f ∧ (b = 0 → t'.historicEndReached = true) := by
  have hposition := hx.position?_eq_none hd hnone
  have hempty : anchor.isEmpty = false := by simpa using hanchor
  unfold anchorIndex findAnchor
  simp only [hempty, hposition]
  cases hend : t.historicEndReached with
  | true =>
      have hb := hx.historicEnd hend
      refine ⟨t, s, rfl, hl, ?_, fun _ => hend⟩
      rw [hb] at hx ⊢
      exact hx
  | false =>
      obtain ⟨received, t', s', hrun, hl', hx', hreceived⟩ :=
        hx.run_backpaginate h ha hl anchorBackfill
      have hmax : max anchorBackfill minimumPagination = anchorBackfill := by decide
      rw [hmax] at hx'
      have hnone' : (if 0 < received then t'.position? anchor else none) = none := by
        refine Option.eq_none_iff_forall_ne_some.2 fun a hi => ?_
        split at hi
        · exact hnone a ((hx'.position?_eq_some_iff hd).1 hi)
        · cases hi
      refine ⟨t', s', ?_, hl', hx', ?_⟩
      · simp only [Bool.false_eq_true, if_false, Exchange.bind_assoc]
        rw [Exchange.run_bind_of_run hrun]
        simp only [hnone']
        rfl
      · intro hb
        exact historicEnd_of_backpaginate hrun (hreceived.2 hb)

/-- One request: it comes to a page if its anchor is found, and to a deeper buffer if not. -/
theorem Mirrors.run_getPage (hx : Mirrors l t b f) (h : ServesLog hs room log)
    (ha : AnswersMessages hs room log) (hl : l <+: log s) (hd : (l.map Event.id).Nodup)
    (hanchor : anchor ≠ "") (offset : Int) (pageSize : Nat) :
    ∃ r t' s' b', (t.getPage room anchor offset pageSize).run hs s = (some (r, t'), s') ∧
      l <+: log s' ∧ Mirrors l t' b' f ∧
      ((∃ a, Found l b f anchor a) → ∃ page, r = .ok page) ∧
      ((∀ a, ¬ Found l b f anchor a) → r = .error (.anchorNotFound room anchor) ∧
        b' = b - anchorBackfill ∧ (b = 0 → t'.historicEndReached = true)) := by
  by_cases hfound : ∃ a, Found l b f anchor a
  · obtain ⟨a, hat⟩ := hfound
    obtain ⟨r, t₁, s₁, b₁, hindex, hl₁, hx₁, hr, -⟩ := hx.run_anchorIndex h ha hl hd anchor
    obtain rfl := (hr a).2 (.inr ⟨hanchor, hat⟩)
    have hnone (hnone : ∀ a, ¬ Found l b f anchor a) : False := hnone a hat
    by_cases hoffset : 0 ≤ offset
    · obtain ⟨t₂, s₂, b₂, hreach, hl₂, hx₂, -⟩ :=
        hx₁.run_reach_cases h ha hl₁ (wanted a offset.toNat pageSize)
      have hrun := run_getPage_of_reach hindex hreach
      rw [Int.toNat_of_nonneg hoffset] at hrun
      exact ⟨_, t₂, s₂, b₂, hrun, hl₂, hx₂, fun _ => ⟨_, rfl⟩, fun h => (hnone h).elim⟩
    · refine ⟨_, t₁, s₁, b₁, ?_, hl₁, hx₁, fun _ => ⟨t₁.window a offset pageSize, rfl⟩,
        fun h => (hnone h).elim⟩
      rw [getPage, Exchange.run_bind_of_run hindex]
      simp only [hoffset, if_false, window]
      rfl
  · obtain ⟨t', s', hindex, hl', hx', hend⟩ :=
      hx.run_anchorIndex_of_not_found h ha hl hd hanchor (not_exists.1 hfound)
    refine ⟨_, t', s', _, ?_, hl', hx', fun h => absurd h hfound, fun _ => ⟨rfl, rfl, hend⟩⟩
    rw [getPage, Exchange.run_bind_of_run hindex]
    rfl

/-- Once the history is known to end, a request for an anchor that is not held makes no call. -/
theorem getPage_eq_done_of_historicEnd (hend : t.historicEndReached = true)
    (hposition : t.position? anchor = none) (hanchor : anchor ≠ "") :
    t.getPage room anchor offset pageSize = .done (.error (.anchorNotFound room anchor), t) := by
  have hempty : anchor.isEmpty = false := by simpa using hanchor
  unfold getPage anchorIndex findAnchor
  simp only [hempty, hposition, hend]
  rfl

/-! ## Request after request -/

theorem Asks.mirrors (hasks : Asks hs room log anchor offset pageSize t s rs t' s')
    (hx : Mirrors l t b f) (h : ServesLog hs room log) (ha : AnswersMessages hs room log)
    (hl : l <+: log s) (hd : (l.map Event.id).Nodup) (hanchor : anchor ≠ "") :
    ∃ b', Mirrors l t' b' f ∧ l <+: log s' := by
  induction hasks generalizing b with
  | start => exact ⟨b, hx, hl⟩
  | next hrun hgrown _ ih =>
      obtain ⟨r, t₁, s₁, b₁, hrun₁, hl₁, hx₁, -⟩ :=
        hx.run_getPage h ha hl hd hanchor offset pageSize
      cases hrun.symm.trans hrun₁
      exact ih hx₁ (hl₁.trans hgrown)

/-- Requests for an event before what is held fail until the entries that came reach it. -/
theorem Asks.eq_replicate_append (hasks : Asks hs room log anchor offset pageSize t s rs t' s')
    (hx : Mirrors l t b f) (h : ServesLog hs room log) (ha : AnswersMessages hs room log)
    (hl : l <+: log s) (hd : (l.map Event.id).Nodup) (hanchor : anchor ≠ "") (hj : 0 < j)
    (hjb : j ≤ b) (he : l[b - j]? = some e) (hid : e.id = anchor) (hplain : e.isRedaction = false)
    (hlength : rs.length = (j + 99) / 100) :
    ∃ page, rs = List.replicate ((j + 99) / 100 - 1) (.error (.anchorNotFound room anchor)) ++
      [.ok page] := by
  induction hasks generalizing b j with
  | start =>
      rw [List.length_nil] at hlength
      omega
  | @next _ _ _ _ _ _ _ r rs hrun hgrown _ ih =>
      obtain ⟨r₁, t₁, s₁, b₁, hrun₁, hl₁, hx₁, hok, herror⟩ :=
        hx.run_getPage h ha hl hd hanchor offset pageSize
      cases hrun.symm.trans hrun₁
      have hbf := hx.le
      have hfound : (∃ a, Found l b f anchor a) ↔ b - anchorBackfill ≤ b - j :=
        hid ▸ exists_found_iff hd he (by omega) hplain
      have hhundred : anchorBackfill = 100 := rfl
      rw [List.length_cons] at hlength
      by_cases hnear : j ≤ 100
      · obtain ⟨page, rfl⟩ := hok (hfound.2 (by omega))
        have hone : (j + 99) / 100 = 1 := by omega
        obtain rfl : rs = [] := List.length_eq_zero_iff.1 (by omega)
        exact ⟨page, by rw [hone]; rfl⟩
      · have hnone : ¬ ∃ a, Found l b f anchor a := fun hat => by
          have := hfound.1 hat
          omega
        obtain ⟨rfl, rfl, -⟩ := herror (not_exists.1 hnone)
        have hsame : b - anchorBackfill - (j - 100) = b - j := by omega
        obtain ⟨page, rfl⟩ := ih hx₁ (hl₁.trans hgrown) (j := j - 100) (by omega) (by omega)
          (hsame ▸ he) (by omega)
        have hmore : (j + 99) / 100 - 1 = (j - 100 + 99) / 100 - 1 + 1 := by omega
        refine ⟨page, ?_⟩
        rw [hmore, List.replicate_succ, List.cons_append]

/-- Requests for an id that is not in the log go back to its start and learn that it ends there. -/
theorem Asks.not_found (hasks : Asks hs room log anchor offset pageSize t s rs t' s')
    (hx : Mirrors l t b f) (h : ServesLog hs room log) (ha : AnswersMessages hs room log)
    (hl : l <+: log s) (hd : (l.map Event.id).Nodup) (hanchor : anchor ≠ "")
    (hnone : ∀ e ∈ l, e.id ≠ anchor) :
    (∀ r ∈ rs, r = .error (.anchorNotFound room anchor)) ∧
      (t.historicEndReached = true ∨ (b + 99) / 100 + 1 ≤ rs.length →
        t'.historicEndReached = true) := by
  induction hasks generalizing b with
  | start => exact ⟨nofun, fun hend => hend.resolve_right (by simp)⟩
  | @next t₀ _ _ _ _ _ _ r rs hrun hgrown _ ih =>
      obtain ⟨r₁, t₁, s₁, b₁, hrun₁, hl₁, hx₁, -, herror⟩ :=
        hx.run_getPage h ha hl hd hanchor offset pageSize
      cases hrun.symm.trans hrun₁
      obtain ⟨rfl, rfl, hstart⟩ := herror (not_found_of_forall_ne hnone)
      obtain ⟨hrest, hlast⟩ := ih hx₁ (hl₁.trans hgrown)
      refine ⟨List.forall_mem_cons.2 ⟨rfl, hrest⟩, fun hend => hlast ?_⟩
      by_cases hb : b = 0
      · exact .inl (hstart hb)
      · right
        have hopen : t₀.historicEndReached ≠ true := fun h => hb (hx.historicEnd h)
        have hcount := hend.resolve_left hopen
        rw [List.length_cons] at hcount
        have hhundred : anchorBackfill = 100 := rfl
        omega

end

/-- A page toward the present shows the event that it is read around, with no more newer events than
were asked for, unless the buffer ends within it. If an event is not held, the requests for it fail
as long as the answers do not reach it, 100 entries at a time, and then one comes to a page. For an
id that is not in the log all requests fail, and only so many of them make a call. -/
theorem getPage_around {σ : Type} {hs : Homeserver σ} {room : String} {log : σ → List Event}
    {x : Config σ} (h : ServesLog hs room log) (ha : AnswersMessages hs room log)
    (hx : Reachable hs room (Grows log) x) (hdistinct : ((log x.server).map Event.id).Nodup)
    {anchor : String} (hanchor : anchor ≠ "") :
    ∃ b f, Mirrors (log x.server) x.timeline b f ∧
      (∀ (k pageSize : Nat) page t s, 1 ≤ k → k < pageSize → k ≤ 2 ^ 63 →
        (x.timeline.getPage room anchor (-(k : Int)) pageSize).run hs x.server =
          (some (.ok page, t), s) → t.length < 2 ^ 63 →
        ∃ start stop n e, start + n < stop ∧ stop ≤ t.length ∧
          page.events = between t.events start stop ∧ page.events[n]? = some e ∧ e.id = anchor ∧
          (n ≤ k ∨ (t.length + k < start + n + pageSize ∧ stop = t.length))) ∧
      ∀ offset pageSize rs t s,
        Asks hs room log anchor offset pageSize x.timeline x.server rs t s →
        (∃ r t' s', (t.getPage room anchor offset pageSize).run hs s = (some (r, t'), s')) ∧
        (∀ j e, 1 ≤ j → j ≤ b → (log x.server)[b - j]? = some e → e.id = anchor →
          e.isRedaction = false → rs.length = (j + 99) / 100 →
          ∃ page, rs = List.replicate ((j + 99) / 100 - 1)
            (.error (.anchorNotFound room anchor)) ++ [.ok page]) ∧
        ((∀ e ∈ log x.server, e.id ≠ anchor) →
          (∀ r ∈ rs, r = .error (.anchorNotFound room anchor)) ∧
          ((b + 99) / 100 + 1 ≤ rs.length → t.getPage room anchor offset pageSize =
            .done (.error (.anchorNotFound room anchor), t))) := by
  obtain ⟨b, f, hb⟩ := hx.mirrors h
  refine ⟨b, f, hb, ?_, ?_⟩
  · intro k pageSize page t s hk hpage hback hrun hlength
    obtain ⟨a, hindex, rfl⟩ := (fetches_of_getPage hrun).2 page rfl
    exact exists_window_around hanchor hindex hk hpage hback hlength
  · intro offset pageSize rs t s hasks
    obtain ⟨b', hb', hl'⟩ := hasks.mirrors hb h ha List.prefix_rfl hdistinct hanchor
    refine ⟨?_, ?_, ?_⟩
    · obtain ⟨r, t', s', -, hrun, -⟩ := hb'.run_getPage h ha hl' hdistinct hanchor offset pageSize
      exact ⟨r, t', s', hrun⟩
    · intro j e hj hjb he hid hplain hlength
      exact hasks.eq_replicate_append hb h ha List.prefix_rfl hdistinct hanchor hj hjb he hid hplain
        hlength
    · intro hnone
      obtain ⟨hall, hlast⟩ := hasks.not_found hb h ha List.prefix_rfl hdistinct hanchor hnone
      refine ⟨hall, fun hcount => ?_⟩
      have hposition := hb'.position?_eq_none hdistinct (not_found_of_forall_ne hnone)
      exact getPage_eq_done_of_historicEnd (hlast (.inr hcount)) hposition hanchor

end RoomReader.Timeline

/-! A room whose oldest entry has an empty id, loaded with its newest entry. The one after the
oldest is found by the second request. A request with an empty anchor is one for the newest entry,
so it never looks for the oldest. -/

namespace RoomReader.SmallRoom

open RoomReader.Timeline

def long : List Event := .message "" :: (List.range 102).map fun n => .message (Position.token n)

def longRoom : LogServer.With room := LogServer.holding room long (by decide)

def longSeeded : Config (LogServer.With room) :=
  ⟨{ events := [.message "t101"], backToken := "t102", forwardToken := "t103" }, {}, longRoom⟩

theorem reachable_longSeeded :
    Reachable (LogServer.serving room) room (Grows (LogServer.historyOf room)) longSeeded :=
  ⟨longSeeded, ⟨1, longRoom, _, 0, rfl, rfl⟩, .refl⟩

theorem nodup_long : (long.map Event.id).Nodup := by decide +kernel

theorem second_request_finds_event :
    ∃ page t s, Asks (LogServer.serving room) room (LogServer.historyOf room) "t0" (-10) 20
      longSeeded.timeline longRoom [.error (.anchorNotFound room "t0"), .ok page] t s := by
  obtain ⟨b, f, hb, -, hasks⟩ := getPage_around (LogServer.servesLog room)
    (LogServer.answersMessages room) reachable_longSeeded nodup_long (show "t0" ≠ "" by decide)
  obtain rfl : 102 = b := Position.token_inj.1 hb.backToken
  obtain ⟨⟨r₁, t₁, s₁, hfirst⟩, -, -⟩ := hasks (-10) 20 [] _ _ .start
  obtain ⟨⟨r₂, t₂, s₂, hsecond⟩, -, -⟩ := hasks (-10) 20 [r₁] t₁ s₁
    (.next hfirst List.prefix_rfl .start)
  have hboth : Asks (LogServer.serving room) room (LogServer.historyOf room) "t0" (-10) 20
      longSeeded.timeline longRoom [r₁, r₂] t₂ s₂ :=
    .next hfirst List.prefix_rfl (.next hsecond List.prefix_rfl .start)
  obtain ⟨-, hfound, -⟩ := hasks (-10) 20 [r₁, r₂] t₂ s₂ hboth
  obtain ⟨page, hanswers⟩ := hfound 101 (.message "t0") (by decide) (by decide) rfl rfl rfl rfl
  rw [hanswers] at hboth
  exact ⟨page, t₂, s₂, hboth⟩

theorem nameless_event_is_not_looked_for :
    ServesLog (LogServer.serving room) room (LogServer.historyOf room) ∧
      AnswersMessages (LogServer.serving room) room (LogServer.historyOf room) ∧
      Reachable (LogServer.serving room) room (Grows (LogServer.historyOf room)) longSeeded ∧
      (long.map Event.id).Nodup ∧ Mirrors long longSeeded.timeline 102 103 ∧
      ∃ e, long[102 - 102]? = some e ∧ e.isRedaction = false ∧
        1 ≤ (102 + 99) / 100 - 1 ∧
        ∃ page t s, (longSeeded.timeline.getPage room e.id (-1) 10).run (LogServer.serving room)
          longRoom = (some (.ok page, t), s) :=
  ⟨LogServer.servesLog room, LogServer.answersMessages room, reachable_longSeeded, nodup_long,
    ⟨by decide, by decide, rfl, rfl, rfl, nofun⟩, .message "", rfl, rfl, by decide, _, _, _, rfl⟩

end RoomReader.SmallRoom
