import Mathlib
import RoomReader.Proofs.Timeline.Mirror

namespace RoomReader.Timeline

/-!
# Windows in plain integers

An offset may be any integer of 64 binary digits and a page may be of any size, so the sums that
lead to a window may meet the limit of counts. A buffer has fewer than `2 ^ 63` events, and then the
window is the one that plain integers give. No step on the way leaves its bounds.
-/

/-- The window of a page, computed without any limit. -/
def plainWindow (length anchor : Nat) (offset : Int) (pageSize : Nat) : Int × Int :=
  if 0 ≤ offset then
    (min (anchor + offset) length, min (anchor + offset + pageSize) length)
  else
    let stop := max 0 (min (anchor + pageSize + offset) length)
    (max (stop - pageSize) 0, stop)

/-! ## Steps that check their bounds -/

section

variable {α : Type} {a b start stop : Nat} {l : List α}

def sub? (a b : Nat) : Option Nat := if b ≤ a then some (a - b) else none

/-- The elements from `start` up to `stop`, which have to be in order and within the list. -/
def slice? (l : List α) (start stop : Nat) : Option (List α) :=
  if start ≤ stop ∧ stop ≤ l.length then some (between l start stop) else none

theorem sub?_eq_some (h : b ≤ a) : sub? a b = some (a - b) := if_pos h

theorem slice?_eq_some (hstart : start ≤ stop) (hstop : stop ≤ l.length) :
    slice? l start stop = some (between l start stop) :=
  if_pos ⟨hstart, hstop⟩

end

def pageChecked (t : Timeline) (window : Nat × Nat) : Option EventPage :=
  (slice? t.events window.1 window.2).map fun events =>
    { events, atTopEnd := window.2 == t.length, atBottomEnd := window.1 == 0 }

def reachChecked (t : Timeline) (room : String) (wanted : Nat) : Exchange (Option Timeline) := do
  if !t.historicEndReached && t.length ≤ wanted then
    match sub? wanted t.length with
    | none => return none
    | some missing => return some (← t.backpaginate room missing).2
  else return some t

/-- Reads a page, and comes to `none` where a step leaves its bounds: where a difference would be
less than zero, or a range would not lie within the buffer. -/
def getPageChecked (t : Timeline) (room anchor : String) (offset : Int) (pageSize : Nat) :
    Exchange (Option (Except RoomError EventPage × Timeline)) := do
  match ← t.anchorIndex room anchor with
  | (.error e, t) => return some (.error e, t)
  | (.ok index, t) =>
    if 0 ≤ offset then
      match ← t.reachChecked room (wanted index offset.toNat pageSize) with
      | none => return none
      | some t =>
        let page? := t.pageChecked (olderWindow t.length index offset.toNat pageSize)
        return page?.map fun page => (.ok page, t)
    else
      let page? := t.pageChecked (newerWindow t.length index offset.natAbs pageSize)
      return page?.map fun page => (.ok page, t)

section

variable {t t' : Timeline} {length a wanted pageSize start stop : Nat} {offset : Int}
  {room anchor : String}

/-! ## All bounds are kept -/

theorem olderWindow_within (length a n pageSize : Nat) :
    (olderWindow length a n pageSize).1 ≤ (olderWindow length a n pageSize).2 ∧
      (olderWindow length a n pageSize).2 ≤ length := by
  simp only [olderWindow, Count.add]
  omega

theorem newerWindow_within (length a back pageSize : Nat) :
    (newerWindow length a back pageSize).1 ≤ (newerWindow length a back pageSize).2 ∧
      (newerWindow length a back pageSize).2 ≤ length := by
  simp only [newerWindow]
  omega

theorem pageChecked_eq (t : Timeline) {window : Nat × Nat}
    (h : window.1 ≤ window.2 ∧ window.2 ≤ t.length) :
    t.pageChecked window = some (t.page window.1 window.2) := by
  rw [pageChecked, slice?_eq_some h.1 h.2]
  rfl

theorem reachChecked_eq (t : Timeline) (room : String) (wanted : Nat) :
    t.reachChecked room wanted = t.reach room wanted >>= fun t => .done (some t) := by
  unfold reachChecked reach
  split
  · rename_i hneed
    have hle : t.length ≤ wanted := by simp_all
    rw [sub?_eq_some hle, Exchange.bind_assoc]
    rfl
  · rfl

/-- No step of reading a page leaves its bounds, whatever is asked for and answered. -/
theorem getPageChecked_eq (t : Timeline) (room anchor : String) (offset : Int) (pageSize : Nat) :
    t.getPageChecked room anchor offset pageSize =
      t.getPage room anchor offset pageSize >>= fun p => .done (some p) := by
  unfold getPageChecked getPage
  rw [Exchange.bind_assoc]
  refine congrArg (t.anchorIndex room anchor >>= ·) (funext ?_)
  rintro ⟨e | index, t⟩
  · rfl
  · dsimp only
    split
    · rw [reachChecked_eq, Exchange.bind_assoc, Exchange.bind_assoc]
      refine congrArg (t.reach room _ >>= ·) (funext fun t => ?_)
      rw [Exchange.done_bind]
      dsimp only
      rw [pageChecked_eq t (olderWindow_within ..)]
      rfl
    · rw [pageChecked_eq t (newerWindow_within ..)]
      rfl

/-! ## The limit makes no difference -/

theorem plainWindow_of_nonneg (hlength : length < 2 ^ 63) (h : 0 ≤ offset) (a pageSize : Nat) :
    plainWindow length a offset pageSize =
      (((olderWindow length a offset.toNat pageSize).1 : Int),
        ((olderWindow length a offset.toNat pageSize).2 : Int)) := by
  simp only [plainWindow, if_pos h, olderWindow, Count.add, Count.limit, Prod.mk.injEq]
  omega

/-- A sum that meets the limit is still beyond the buffer when the offset is taken off. -/
theorem plainWindow_of_neg (hlength : length < 2 ^ 63) (hleast : -2 ^ 63 ≤ offset)
    (h : offset < 0) (a pageSize : Nat) :
    plainWindow length a offset pageSize =
      (((newerWindow length a offset.natAbs pageSize).1 : Int),
        ((newerWindow length a offset.natAbs pageSize).2 : Int)) := by
  simp only [plainWindow, if_neg (Int.not_le.2 h), newerWindow, Count.add, Count.limit,
    Prod.mk.injEq]
  omega

/-- The page of what is held is that of the plain window. -/
theorem exists_plainWindow (t : Timeline) (hlength : t.length < 2 ^ 63)
    (hleast : -2 ^ 63 ≤ offset) (a pageSize : Nat) :
    ∃ start stop : Nat, plainWindow t.length a offset pageSize = ((start : Int), (stop : Int)) ∧
      start ≤ stop ∧ stop ≤ t.length ∧ t.window a offset pageSize = t.page start stop := by
  by_cases hoffset : 0 ≤ offset
  · obtain ⟨hstart, hstop⟩ := olderWindow_within t.length a offset.toNat pageSize
    refine ⟨_, _, plainWindow_of_nonneg hlength hoffset a pageSize, hstart, hstop, ?_⟩
    rw [window, if_pos hoffset]
  · obtain ⟨hstart, hstop⟩ := newerWindow_within t.length a offset.natAbs pageSize
    have hneg : offset < 0 := Int.not_le.1 hoffset
    refine ⟨_, _, plainWindow_of_neg hlength hleast hneg a pageSize, hstart, hstop, ?_⟩
    rw [window, if_neg hoffset]

/-! ## Anchors that are not found -/

variable {σ : Type} {hs : Homeserver σ} {s s' : σ}

theorem position?_eq_none_of_findAnchor {r : Except ApiError (Option Nat)}
    (h : (t.findAnchor room anchor).run hs s = (some (r, t'), s')) (hr : ∀ i, r ≠ .ok (some i)) :
    t'.position? anchor = none := by
  unfold findAnchor at h
  split at h
  · cases h
    exact absurd rfl (hr _)
  · rename_i hposition
    split at h
    · cases h
      exact hposition
    · simp only [backpaginate, Exchange.messages_bind] at h
      obtain ⟨reply, s₁, -, h⟩ := Exchange.run_ask_eq_some.1 h
      cases reply with
      | error e =>
          cases h
          exact hposition
      | ok m =>
          cases h
          cases hchunk : m.chunk with
          | nil =>
              -- An answer without events adds nothing to the buffer.
              simpa [position?, extendBack, hchunk] using hposition
          | cons e rest =>
              refine Option.eq_none_iff_forall_ne_some.2 fun i hi => hr i ?_
              rw [hchunk, List.length_cons, if_pos (Nat.succ_pos _), hi]

/-- A read that comes to an error does not hold its anchor in the end. -/
theorem not_indexOf_of_anchorIndex {e : RoomError}
    (h : (t.anchorIndex room anchor).run hs s = (some (.error e, t'), s')) (a : Nat) :
    ¬ t'.IndexOf anchor a := by
  unfold anchorIndex at h
  split at h
  · cases h
  · rename_i hne
    obtain ⟨⟨found, t₁⟩, s₁, hfind, h⟩ := Exchange.run_bind_eq_some.1 h
    have hnone : t'.position? anchor = none := by
      rcases found with e | _ | i <;> cases h
      · exact position?_eq_none_of_findAnchor hfind nofun
      · exact position?_eq_none_of_findAnchor hfind nofun
    rintro (⟨rfl, -⟩ | ⟨-, ha⟩)
    · exact hne rfl
    · rw [hnone] at ha
      cases ha

theorem not_indexOf_of_getPage {e : RoomError} {pageSize : Nat}
    (h : (t.getPage room anchor offset pageSize).run hs s = (some (.error e, t'), s')) (a : Nat) :
    ¬ t'.IndexOf anchor a := by
  unfold getPage at h
  obtain ⟨⟨found, t₁⟩, s₁, hindex, h⟩ := Exchange.run_bind_eq_some.1 h
  cases found with
  | error e =>
      cases h
      exact not_indexOf_of_anchorIndex hindex a
  | ok index =>
      dsimp only at h
      split at h
      · obtain ⟨t₂, s₂, -, h⟩ := Exchange.run_bind_eq_some.1 h
        cases h
      · cases h

theorem IndexOf.unique {b : Nat} (h : t.IndexOf anchor a) (h' : t.IndexOf anchor b) : a = b := by
  rcases h with ⟨rfl, rfl⟩ | ⟨hne, ha⟩ <;> rcases h' with ⟨hnil, hb⟩ | ⟨hne', hb⟩
  · exact hb.symm
  · exact absurd rfl hne'
  · exact absurd hnil hne
  · exact Option.some.inj (ha.symm.trans hb)

end

/-- Whatever offset of 64 digits and whatever page size is asked for, and whatever is answered,
reading a page never leaves a bound, and it comes to an answer if every call comes back. If the
anchor is held in the end the answer is the page that plain integers give, and else it is an
error. -/
theorem getPage_eq_plainWindow {σ : Type} {hs : Homeserver σ} {offset : Int}
    (hleast : -2 ^ 63 ≤ offset) (t : Timeline) (room anchor : String) (pageSize : Nat) (s : σ) :
    (t.getPageChecked room anchor offset pageSize =
      t.getPage room anchor offset pageSize >>= fun p => .done (some p)) ∧
    (hs.ComesBack → ∃ p s', (t.getPage room anchor offset pageSize).run hs s = (some p, s')) ∧
    ∀ r t' s', (t.getPage room anchor offset pageSize).run hs s = (some (r, t'), s') →
      (t'.length < 2 ^ 63 → ∀ a, t'.IndexOf anchor a → ∃ page start stop, r = .ok page ∧
        plainWindow t'.length a offset pageSize = (((start : Nat) : Int), ((stop : Nat) : Int)) ∧
        start ≤ stop ∧ stop ≤ t'.length ∧ page.events = between t'.events start stop ∧
        (page.atTopEnd = true ↔ stop = t'.length) ∧ (page.atBottomEnd = true ↔ start = 0)) ∧
      ((∀ a, ¬ t'.IndexOf anchor a) → ∃ e, r = .error e) := by
  refine ⟨t.getPageChecked_eq room anchor offset pageSize,
    fun hback => Exchange.exists_run hback _ s, fun r t' s' hrun => ?_⟩
  have hpage := (fetches_of_getPage hrun).2
  constructor
  · intro hlength a ha
    cases r with
    | error e => exact absurd ha (not_indexOf_of_getPage hrun a)
    | ok page =>
        obtain ⟨index, hindex, rfl⟩ := hpage page rfl
        obtain rfl := ha.unique hindex
        obtain ⟨start, stop, hwindow, hstart, hstop, heq⟩ :=
          t'.exists_plainWindow hlength hleast a pageSize
        rw [heq]
        exact ⟨_, start, stop, rfl, hwindow, hstart, hstop, rfl, beq_iff_eq, beq_iff_eq⟩
  · intro hnone
    cases r with
    | error e => exact ⟨e, rfl⟩
    | ok page =>
        obtain ⟨index, hindex, -⟩ := hpage page rfl
        exact absurd hindex (hnone index)

end RoomReader.Timeline

/-! The small room is read to its start. Even the least offset then leaves a page of the greatest
size on both its messages. -/

namespace RoomReader.SmallRoom

open RoomReader.Timeline

theorem whole_room_at_limits :
    ∃ page t s, (paged.timeline.getPage room "$0" (-2 ^ 63) (2 ^ 64 - 1)).run
        (LogServer.serving room) early = (some (.ok page, t), s) ∧
      page.events = [.message "$2", .message "$0"] ∧ page.atTopEnd = true ∧
      page.atBottomEnd = true := by
  have hread : (paged.timeline.getPage room "$0" (-2 ^ 63) (2 ^ 64 - 1)).run
      (LogServer.serving room) early = (some (_, paged.timeline), early) := rfl
  obtain ⟨-, -, hpage⟩ := getPage_eq_plainWindow (Int.le_refl _) paged.timeline room "$0"
    (2 ^ 64 - 1) early
  have hindex : paged.timeline.IndexOf "$0" 1 := .inr ⟨by decide, rfl⟩
  obtain ⟨page, start, stop, hok, hwindow, -, -, hevents, htop, hbottom⟩ :=
    (hpage _ _ _ hread).1 (by decide) 1 hindex
  have hplain : plainWindow paged.timeline.length 1 (-2 ^ 63) (2 ^ 64 - 1) = (0, 2) := by decide
  rw [hplain, Prod.mk.injEq] at hwindow
  obtain rfl : start = 0 := (Int.ofNat.inj hwindow.1).symm
  obtain rfl : stop = 2 := (Int.ofNat.inj hwindow.2).symm
  rw [hok] at hread
  exact ⟨page, _, _, hread, hevents, htop.2 rfl, hbottom.2 rfl⟩

end RoomReader.SmallRoom
