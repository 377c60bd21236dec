import Mathlib.Logic.Relation
import RoomReader.Proofs.Exchange
import RoomReader.Proofs.Timeline.Between

namespace RoomReader.Timeline

/-!
# What reading a page fetches

For a page older events are asked for at most twice, and only while the history is not known to end.
They come behind all that is held, so an event that is held stays where it is. The page itself is a
window of what is held in the end.
-/

section

variable {σ : Type} (hs : Homeserver σ) (room : String)

/-- A call for older events, and what becomes of the timeline. -/
inductive Fetch : Timeline × σ → Timeline × σ → Prop
  | older {t : Timeline} {s s' : σ} {limit : Nat} {m : Messages}
      (hopen : t.historicEndReached = false) (hlimit : minimumPagination ≤ limit)
      (h : hs.respond (.messages room t.backToken .backward limit) s = (some (.ok m), s')) :
      Fetch (t, s) (t.extendBack m, s')
  | failed {t : Timeline} {s s' : σ} {c : Call} {e : ApiError}
      (h : hs.respond c s = (some (.error e), s')) : Fetch (t, s) (t, s')

abbrev Fetches : Timeline × σ → Timeline × σ → Prop := Relation.ReflTransGen (Fetch hs room)

/-- What a timeline can become by calls for older events, whenever they are made. -/
abbrev Deepens : Timeline → Timeline → Prop :=
  Relation.ReflTransGen fun t t' => ∃ s s', Fetch hs room (t, s) (t', s')

end

/-- The index that an anchor stands for. -/
def IndexOf (t : Timeline) (anchor : String) (a : Nat) : Prop :=
  (anchor = "" ∧ a = 0) ∨ (anchor ≠ "" ∧ t.position? anchor = some a)

/-- The page of what is held, counted from an index. -/
def window (t : Timeline) (a : Nat) (offset : Int) (pageSize : Nat) : EventPage :=
  let (start, stop) :=
    if 0 ≤ offset then olderWindow t.length a offset.toNat pageSize
    else newerWindow t.length a offset.natAbs pageSize
  t.page start stop

section

variable {σ : Type} {hs : Homeserver σ} {room anchor : String} {t t' : Timeline} {s s' : σ}
  {a pageSize : Nat} {offset : Int} {more : List Event}

/-! ## What is held -/

theorem Fetches.deepens (h : Fetches hs room (t, s) (t', s')) : Deepens hs room t t' :=
  h.lift Prod.fst fun p q hpq => ⟨p.2, q.2, hpq⟩

theorem Deepens.exists_append (h : Deepens hs room t t') :
    ∃ more, t'.events = t.events ++ more := by
  induction h with
  | refl => exact ⟨[], (List.append_nil _).symm⟩
  | tail _ hstep ih =>
      obtain ⟨more, hmore⟩ := ih
      obtain ⟨s, s', hfetch⟩ := hstep
      cases hfetch with
      | failed _ => exact ⟨more, hmore⟩
      | @older _ _ _ _ m =>
          refine ⟨more ++ kept m.chunk, ?_⟩
          simp only [extendBack, hmore, List.append_assoc]

/-- Nothing is asked for once the history is known to end. -/
theorem Deepens.eq_of_historicEnd (h : Deepens hs room t t') (hend : t.historicEndReached = true) :
    t' = t := by
  induction h with
  | refl => rfl
  | tail _ hstep ih =>
      subst ih
      obtain ⟨s, s', hfetch⟩ := hstep
      cases hfetch with
      | failed _ => rfl
      | older hopen _ _ =>
          rw [hend] at hopen
          cases hopen

/-- The homeserver has nothing to show before the old end of the buffer. -/
def Exhausted (hs : Homeserver σ) (room : String) (t : Timeline) : Prop :=
  ∀ limit s m s', hs.respond (.messages room t.backToken .backward limit) s = (some (.ok m), s') →
    m.chunk = []

theorem Deepens.events_eq_of_exhausted (h : Deepens hs room t t') (hend : Exhausted hs room t) :
    t'.events = t.events := by
  have hkeeps : t'.events = t.events ∧
      (t'.historicEndReached = true ∨ t'.backToken = t.backToken) := by
    induction h with
    | refl => exact ⟨rfl, .inr rfl⟩
    | tail _ hstep ih =>
        obtain ⟨s, s', hfetch⟩ := hstep
        cases hfetch with
        | failed _ => exact ih
        | @older t₁ _ _ limit m hopen _ hc =>
            obtain ⟨hevents, hreached | htoken⟩ := ih
            · rw [hreached] at hopen
              cases hopen
            · have hnil : m.chunk = [] := hend limit s m s' (htoken ▸ hc)
              simp [extendBack, hnil, kept, hevents]
  exact hkeeps.1

theorem position?_append (h : t'.events = t.events ++ more) (hi : t.position? anchor = some a) :
    t'.position? anchor = some a := by
  simp only [position?] at *
  rw [h, List.findIdx?_append, hi, Option.some_or]

theorem IndexOf.append (hi : t.IndexOf anchor a) (h : t'.events = t.events ++ more) :
    t'.IndexOf anchor a :=
  hi.imp_right fun ⟨hne, hi⟩ => ⟨hne, position?_append h hi⟩

theorem IndexOf.deepens (hi : t.IndexOf anchor a) (h : Deepens hs room t t') :
    t'.IndexOf anchor a :=
  let ⟨_, hmore⟩ := h.exists_append
  hi.append hmore

/-! ## What is fetched -/

theorem fetch_of_backpaginate {amount : Nat} {r : Except ApiError Nat}
    (hopen : t.historicEndReached = false)
    (h : (t.backpaginate room amount).run hs s = (some (r, t'), s')) :
    Fetch hs room (t, s) (t', s') := by
  simp only [backpaginate, Exchange.messages_bind] at h
  obtain ⟨reply, s₁, hc, h⟩ := Exchange.run_ask_eq_some.1 h
  cases reply with
  | error e =>
      cases h
      exact .failed hc
  | ok m =>
      cases h
      exact .older hopen (Nat.le_max_right _ _) hc

theorem fetches_of_findAnchor {r : Except ApiError (Option Nat)}
    (h : (t.findAnchor room anchor).run hs s = (some (r, t'), s')) :
    Fetches hs room (t, s) (t', s') ∧ ∀ i, r = .ok (some i) → t'.position? anchor = some i := by
  unfold findAnchor at h
  split at h
  · rename_i i hi
    cases h
    refine ⟨.refl, ?_⟩
    rintro _ ⟨⟩
    exact hi
  · split at h
    · cases h
      exact ⟨.refl, nofun⟩
    · rename_i hopen
      obtain ⟨⟨received, t₁⟩, s₁, hback, h⟩ := Exchange.run_bind_eq_some.1 h
      have hfetch := fetch_of_backpaginate (Bool.eq_false_iff.2 hopen) hback
      cases received with
      | error e =>
          cases h
          exact ⟨.single hfetch, nofun⟩
      | ok received =>
          cases h
          refine ⟨.single hfetch, ?_⟩
          intro i hi
          split at hi
          · exact Except.ok.inj hi
          · cases hi

theorem fetches_of_anchorIndex {r : Except RoomError Nat}
    (h : (t.anchorIndex room anchor).run hs s = (some (r, t'), s')) :
    Fetches hs room (t, s) (t', s') ∧ ∀ a, r = .ok a → t'.IndexOf anchor a := by
  unfold anchorIndex at h
  split at h
  · rename_i hempty
    cases h
    refine ⟨.refl, ?_⟩
    rintro _ ⟨⟩
    exact .inl ⟨String.isEmpty_iff.1 hempty, rfl⟩
  · rename_i hne
    obtain ⟨⟨found, t₁⟩, s₁, hfind, h⟩ := Exchange.run_bind_eq_some.1 h
    obtain ⟨hfetches, hposition⟩ := fetches_of_findAnchor hfind
    rcases found with e | _ | i <;> cases h
    · exact ⟨hfetches, nofun⟩
    · exact ⟨hfetches, nofun⟩
    · refine ⟨hfetches, ?_⟩
      rintro _ ⟨⟩
      exact .inr ⟨fun hnil => hne (String.isEmpty_iff.2 hnil), hposition _ rfl⟩

theorem fetches_of_reach {wanted : Nat} (h : (t.reach room wanted).run hs s = (some t', s')) :
    Fetches hs room (t, s) (t', s') := by
  unfold reach at h
  split at h
  · rename_i hneed
    obtain ⟨⟨received, t₁⟩, s₁, hback, h⟩ := Exchange.run_bind_eq_some.1 h
    cases h
    exact .single (fetch_of_backpaginate (by simp_all) hback)
  · cases h
    exact .refl

/-- A page is a window of what is held in the end, counted from the index of its anchor. -/
theorem fetches_of_getPage {r : Except RoomError EventPage}
    (h : (t.getPage room anchor offset pageSize).run hs s = (some (r, t'), s')) :
    Fetches hs room (t, s) (t', s') ∧
      ∀ page, r = .ok page → ∃ a, t'.IndexOf anchor a ∧ page = t'.window a offset pageSize := by
  unfold getPage at h
  obtain ⟨⟨found, t₁⟩, s₁, hindex, h⟩ := Exchange.run_bind_eq_some.1 h
  obtain ⟨hfetches, hfound⟩ := fetches_of_anchorIndex hindex
  cases found with
  | error e =>
      cases h
      exact ⟨hfetches, nofun⟩
  | ok a =>
      have ha := hfound a rfl
      dsimp only at h
      split at h
      · rename_i hoffset
        obtain ⟨t₂, s₂, hreach, h⟩ := Exchange.run_bind_eq_some.1 h
        cases h
        have hmore := fetches_of_reach hreach
        refine ⟨hfetches.trans hmore, ?_⟩
        rintro _ ⟨⟩
        exact ⟨a, ha.deepens hmore.deepens, by rw [window, if_pos hoffset]⟩
      · rename_i hoffset
        cases h
        refine ⟨hfetches, ?_⟩
        rintro _ ⟨⟩
        exact ⟨a, ha, by rw [window, if_neg hoffset]⟩

/-- A page into the past, once its anchor is found and older events have been asked for. -/
theorem run_getPage_of_reach {t₁ t₂ : Timeline} {s₁ s₂ : σ} {n : Nat}
    (hindex : (t.anchorIndex room anchor).run hs s = (some (.ok a, t₁), s₁))
    (hreach : (t₁.reach room (wanted a n pageSize)).run hs s₁ = (some t₂, s₂)) :
    (t.getPage room anchor (n : Int) pageSize).run hs s =
      (some (.ok (t₂.window a (n : Int) pageSize), t₂), s₂) := by
  rw [getPage, Exchange.run_bind_of_run hindex]
  simp only [window, Int.natCast_nonneg, if_true, Int.toNat_natCast]
  rw [Exchange.run_bind_of_run hreach]
  rfl

/-! ## Reading at an anchor that is held -/

/-- For an anchor that is held nothing is asked. -/
theorem IndexOf.anchorIndex_eq (h : t.IndexOf anchor a) (room : String) :
    t.anchorIndex room anchor = .done (.ok a, t) := by
  unfold anchorIndex
  rcases h with ⟨rfl, rfl⟩ | ⟨hne, ha⟩
  · rfl
  · have hempty : anchor.isEmpty = false := by simpa using hne
    simp only [hempty, findAnchor, ha]
    rfl

theorem IndexOf.run_anchorIndex (h : t.IndexOf anchor a) (hs : Homeserver σ) (room : String)
    (s : σ) : (t.anchorIndex room anchor).run hs s = (some (.ok a, t), s) := by
  rw [h.anchorIndex_eq, Exchange.run_done]

theorem IndexOf.exists_getPage (h : t.IndexOf anchor a) (hback : hs.ComesBack) (room : String)
    (offset : Int) (pageSize : Nat) (s : σ) :
    ∃ t' s', (t.getPage room anchor offset pageSize).run hs s =
        (some (.ok (t'.window a offset pageSize), t'), s') ∧
      Deepens hs room t t' ∧ (offset < 0 → t' = t) := by
  unfold getPage
  rw [h.anchorIndex_eq, Exchange.done_bind]
  dsimp only
  by_cases hoffset : 0 ≤ offset
  · obtain ⟨t', s', hreach⟩ :=
      Exchange.exists_run hback (t.reach room (wanted a offset.toNat pageSize)) s
    refine ⟨t', s', ?_, (fetches_of_reach hreach).deepens, fun hneg => absurd hoffset (by omega)⟩
    rw [if_pos hoffset, Exchange.run_bind_of_run hreach, window, if_pos hoffset]
    rfl
  · refine ⟨t, s, ?_, .refl, fun _ => rfl⟩
    rw [if_neg hoffset, window, if_neg hoffset]
    rfl

/-! ## Windows of a growing buffer -/

theorem olderWindow_eq_min (length a n pageSize : Nat) :
    olderWindow length a n pageSize =
      (min (Count.add a n) length, min (Count.add (Count.add a n) pageSize) length) := by
  simp only [olderWindow, Count.add, Prod.mk.injEq, true_and]
  omega

theorem window_of_nonneg (t : Timeline) (a pageSize : Nat) (h : 0 ≤ offset) :
    t.window a offset pageSize = t.page (min (Count.add a offset.toNat) t.length)
      (min (Count.add (Count.add a offset.toNat) pageSize) t.length) := by
  rw [window, if_pos h, olderWindow_eq_min]

theorem window_of_neg (t : Timeline) (a pageSize : Nat) (h : offset < 0) :
    t.window a offset pageSize =
      t.page (min (Count.add a pageSize - offset.natAbs) t.length - pageSize)
        (min (Count.add a pageSize - offset.natAbs) t.length) := by
  rw [window, if_neg (by omega)]
  rfl

/-- A window that leads from the newest event toward the present begins with that event. -/
theorem exists_window_eq_take (t : Timeline) (pageSize : Nat) (h : offset ≤ 0) :
    ∃ k, (t.window 0 offset pageSize).events = t.events.take k := by
  by_cases hoffset : 0 ≤ offset
  · have hstart : min (Count.add 0 offset.toNat) t.length = 0 := by
      unfold Count.add
      omega
    rw [window_of_nonneg t 0 pageSize hoffset, hstart]
    exact ⟨_, List.drop_zero⟩
  · have hstart : min (Count.add 0 pageSize - offset.natAbs) t.length - pageSize = 0 := by
      unfold Count.add
      omega
    rw [window_of_neg t 0 pageSize (by omega), hstart]
    exact ⟨_, List.drop_zero⟩

/-- A window keeps what it shows when older events are fetched. One that leads toward the present
may move if it touched the old end; one into the past grows if it was cut short there. -/
theorem exists_window_append (h : t'.events = t.events ++ more)
    (hside : 0 ≤ offset ∨ (t.window a offset pageSize).atTopEnd = false) :
    ∃ older, (t'.window a offset pageSize).events = (t.window a offset pageSize).events ++ older ∧
      ((t.window a offset pageSize).atTopEnd = false ∨
        (t.window a offset pageSize).events.length = pageSize → older = []) := by
  have hgrown : t.events <+: t'.events := ⟨more, h.symm⟩
  by_cases hoffset : 0 ≤ offset
  · -- Both ends of the window are fixed indices, which the buffer may not reach yet.
    rw [window_of_nonneg t a pageSize hoffset, window_of_nonneg t' a pageSize hoffset]
    obtain ⟨i, hi⟩ : ∃ i, i = Count.add a offset.toNat := ⟨_, rfl⟩
    have hlimit : i ≤ Count.limit := hi ▸ Nat.min_le_right _ _
    obtain ⟨j, hj⟩ : ∃ j, j = Count.add i pageSize := ⟨_, rfl⟩
    have hspan : i ≤ j ∧ j - i ≤ pageSize := by
      rw [hj, Count.add]
      omega
    rw [← hi, ← hj]
    obtain ⟨older, hevents, hfull⟩ := exists_between_append hgrown hspan.1
    refine ⟨older, hevents, fun hside => hfull (hside.imp beq_eq_false_iff_ne.1 fun hpage => ?_)⟩
    have hlength : (between t.events (min i t.length) (min j t.length)).length =
        min j t.length - min i t.length := length_between (Nat.min_le_right _ _)
    change (between t.events (min i t.length) (min j t.length)).length = pageSize at hpage
    change (between t.events (min i t.length) (min j t.length)).length = j - i
    omega
  · have hneg : offset < 0 := by omega
    -- The start is counted back from the stop, so it stays only if the stop does.
    replace hside := hside.resolve_left hoffset
    rw [window_of_neg t a pageSize hneg] at hside ⊢
    rw [window_of_neg t' a pageSize hneg]
    have hinside := beq_eq_false_iff_ne.1 hside
    have hle : t.length ≤ t'.length := hgrown.length_le
    have hsame : min (Count.add a pageSize - offset.natAbs) t'.length =
        min (Count.add a pageSize - offset.natAbs) t.length := by omega
    refine ⟨[], ?_, fun _ => rfl⟩
    rw [hsame, List.append_nil]
    exact between_eq_of_isPrefix hgrown (Nat.min_le_right _ _)

theorem window_congr (h : t'.events = t.events) (a : Nat) (offset : Int) (pageSize : Nat) :
    t'.window a offset pageSize = t.window a offset pageSize := by
  simp only [window, page, length, h]

/-- What a window shows later on, and when it is the same. -/
theorem Deepens.exists_window_append (h : Deepens hs room t t') (a pageSize : Nat)
    (hside : t' = t ∨ 0 ≤ offset ∨ (t.window a offset pageSize).atTopEnd = false) :
    ∃ older, (t'.window a offset pageSize).events = (t.window a offset pageSize).events ++ older ∧
      (offset < 0 ∨ (t.window a offset pageSize).atTopEnd = false ∨
        (t.window a offset pageSize).events.length = pageSize ∨
        t.historicEndReached = true ∨ Exhausted hs room t → older = []) := by
  obtain ⟨more, hmore⟩ := h.exists_append
  by_cases hsame : t'.events = t.events
  · rw [window_congr hsame]
    exact ⟨[], (List.append_nil _).symm, fun _ => rfl⟩
  · replace hside := hside.resolve_left fun heq => hsame (congrArg events heq)
    obtain ⟨older, hevents, hfull⟩ := Timeline.exists_window_append hmore hside
    refine ⟨older, hevents, ?_⟩
    rintro (hneg | hcut | hlength | hend | hend)
    · exact hfull (.inl (hside.resolve_left (by omega)))
    · exact hfull (.inl hcut)
    · exact hfull (.inr hlength)
    · exact absurd (congrArg events (h.eq_of_historicEnd hend)) hsame
    · exact absurd (h.events_eq_of_exhausted hend) hsame

end

end RoomReader.Timeline
