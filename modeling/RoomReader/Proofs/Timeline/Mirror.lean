import RoomReader.Proofs.Timeline.Moves
import RoomReader.Proofs.Timeline.Service

namespace RoomReader.Timeline

/-!
# The buffer mirrors the log

With a homeserver that serves a log by position tokens, a timeline holds a stretch of the log
without its redactions, and its two tokens name the ends of that stretch. The stretch only grows,
whichever calls fail and however the log grows meanwhile.
-/

/-- The timeline holds the log from position `b` up to position `f`. -/
structure Mirrors (l : List Event) (t : Timeline) (b f : Nat) : Prop where
  le : b ≤ f
  le_length : f ≤ l.length
  backToken : t.backToken = Position.token b
  forwardToken : t.forwardToken = Position.token f
  events : t.events = (kept (between l b f)).reverse
  historicEnd : t.historicEndReached = true → b = 0

section

variable {l l' : List Event} {t : Timeline} {b f n limit : Nat} {m : Messages}

theorem mirrors_ofSync {room : String} {now : Time} {sync : InitialSync} (h : Latest l n sync) :
    Mirrors l (Room.ofSync room now sync).timeline (l.length - n) l.length where
  le := Nat.sub_le _ _
  le_length := le_rfl
  backToken := by simp [Room.ofSync, ofChunk, h.startToken]
  forwardToken := by simp [Room.ofSync, ofChunk, h.endToken]
  events := by simp only [Room.ofSync, ofChunk, h.chunk, kept_reverse]
  historicEnd hend := by cases hend

theorem Mirrors.of_isPrefix (h : Mirrors l t b f) (hl : l <+: l') : Mirrors l' t b f where
  le := h.le
  le_length := h.le_length.trans hl.length_le
  backToken := h.backToken
  forwardToken := h.forwardToken
  events := by rw [h.events, between_eq_of_isPrefix hl h.le_length]
  historicEnd := h.historicEnd

/-- Older entries join the stretch at its old end. An answer without a token shows nothing, so the
stretch begins at the start of the log then, and the old token stays right. -/
theorem Mirrors.extendBack (h : Mirrors l t b f) (hlimit : 0 < limit)
    (hm : Older l b (min limit b) m) (hend : m.endToken = none → m.chunk = []) :
    Mirrors l (t.extendBack m) (b - limit) f := by
  have hstart : b - min limit b = b - limit := by omega
  have hchunk : m.chunk = (between l (b - limit) b).reverse := by rw [hm.chunk, hstart]
  have hempty : m.chunk = [] → b = 0 := by
    intro hnil
    have hlength := hm.length_chunk (h.le.trans h.le_length)
    rw [hnil, List.length_nil] at hlength
    omega
  refine ⟨(Nat.sub_le _ _).trans h.le, h.le_length, ?_, h.forwardToken, ?_, ?_⟩
  · cases htoken : m.endToken with
    | none =>
        have hb := hempty (hend htoken)
        simp [Timeline.extendBack, htoken, h.backToken, hb]
    | some token =>
        have htoken' := hm.endToken token htoken
        simp [Timeline.extendBack, htoken, htoken', hstart]
  · have hjoin : between l (b - limit) b ++ between l b f = between l (b - limit) f :=
      between_append (Nat.sub_le _ _) h.le
    simp only [Timeline.extendBack, h.events, hchunk, kept_reverse]
    rw [← List.reverse_append, ← kept_append, hjoin]
  · intro hreached
    simp only [Timeline.extendBack, Bool.or_eq_true, List.isEmpty_iff] at hreached
    rcases hreached with hreached | hnil
    · rw [h.historicEnd hreached, Nat.zero_sub]
    · rw [hempty hnil, Nat.zero_sub]

theorem Mirrors.extendForward (h : Mirrors l t b f) (hm : Newer l f n m)
    (hend : m.endToken ≠ none) : Mirrors l (t.extendForward m) b (f + n) := by
  refine ⟨h.le.trans (Nat.le_add_right _ _), hm.le, h.backToken, ?_, ?_, h.historicEnd⟩
  · cases htoken : m.endToken with
    | none => exact absurd htoken hend
    | some token => simp [Timeline.extendForward, htoken, hm.endToken token htoken]
  · have hjoin : between l b f ++ between l f (f + n) = between l b (f + n) :=
      between_append h.le (Nat.le_add_right _ _)
    simp only [Timeline.extendForward, h.events, hm.chunk]
    rw [← List.reverse_append, ← kept_append, hjoin]

end

variable {σ : Type} {hs : Homeserver σ} {room : String} {log : σ → List Event} {x y : Config σ}
  {b f : Nat}

theorem mirrors_of_seeded (h : ServesLog hs room log) (hx : Seeded hs room x) :
    ∃ b f, Mirrors (log x.server) x.timeline b f := by
  obtain ⟨limit, s, sync, now, hsync, htimeline⟩ := hx
  rw [htimeline]
  exact ⟨_, _, mirrors_ofSync (h.sync hsync)⟩

/-- A move never shrinks the stretch that is held. -/
theorem Mirrors.move (h : ServesLog hs room log) (hx : Mirrors (log x.server) x.timeline b f)
    (hmove : Move hs room (Grows log) x y) :
    ∃ b' ≤ b, ∃ f' ≥ f, Mirrors (log y.server) y.timeline b' f' := by
  cases hmove with
  | @older t st s s' limit m hlimit hc =>
      rw [hx.backToken] at hc
      obtain ⟨hm, hend⟩ := h.older (hx.le.trans hx.le_length) hc
      have hpos : 0 < limit := lt_of_lt_of_le (by decide) hlimit
      exact ⟨b - limit, Nat.sub_le _ _, f, le_rfl,
        (hx.of_isPrefix (h.isPrefix hc)).extendBack hpos hm hend⟩
  | newer hc =>
      rw [hx.forwardToken] at hc
      obtain ⟨hm, hend⟩ := h.newer hx.le_length hc
      exact ⟨b, le_rfl, _, Nat.le_add_right _ _,
        (hx.of_isPrefix (h.isPrefix hc)).extendForward hm hend⟩
  | failed hc => exact ⟨b, le_rfl, f, le_rfl, hx.of_isPrefix (h.isPrefix hc)⟩
  | grown hl => exact ⟨b, le_rfl, f, le_rfl, hx.of_isPrefix hl⟩

theorem Mirrors.run (h : ServesLog hs room log) (hx : Mirrors (log x.server) x.timeline b f)
    (hrun : Run hs room (Grows log) x y) :
    ∃ b' ≤ b, ∃ f' ≥ f, Mirrors (log y.server) y.timeline b' f' := by
  replace hrun := moves_of_run hrun
  induction hrun with
  | refl => exact ⟨b, le_rfl, f, le_rfl, hx⟩
  | tail _ hmove ih =>
      obtain ⟨b₁, hb₁, f₁, hf₁, hy⟩ := ih
      obtain ⟨b₂, hb₂, f₂, hf₂, hz⟩ := hy.move h hmove
      exact ⟨b₂, hb₂.trans hb₁, f₂, hf₁.trans hf₂, hz⟩

theorem Reachable.mirrors (h : ServesLog hs room log) (hx : Reachable hs room (Grows log) x) :
    ∃ b f, Mirrors (log x.server) x.timeline b f := by
  obtain ⟨x₀, hseed, hrun⟩ := hx
  obtain ⟨b₀, f₀, h₀⟩ := mirrors_of_seeded h hseed
  obtain ⟨b, _, f, _, hb⟩ := h₀.run h hrun
  exact ⟨b, f, hb⟩

/-- A timeline in use holds a stretch of the log at any time, and from then on the stretch only
grows at its two ends. -/
theorem reachable_mirrors_log (h : ServesLog hs room log) (hx : Reachable hs room (Grows log) x) :
    ∃ b f, Mirrors (log x.server) x.timeline b f ∧
      ∀ y, Run hs room (Grows log) x y →
        ∃ b' ≤ b, ∃ f' ≥ f, Mirrors (log y.server) y.timeline b' f' := by
  obtain ⟨b, f, hb⟩ := hx.mirrors h
  exact ⟨b, f, hb, fun y hy => hb.run h hy⟩

end RoomReader.Timeline

/-! The small room, loaded with its newest message, read back to its start, and brought up to
date. -/

namespace RoomReader.SmallRoom

open RoomReader.Timeline

def seeded : Config (LogServer.With room) :=
  ⟨{ events := [.message "$2"], backToken := "t2", forwardToken := "t3" }, {}, early⟩

def paged : Config (LogServer.With room) :=
  ⟨{ events := [.message "$2", .message "$0"], backToken := "t0", forwardToken := "t3" }, {}, early⟩

def swept : Config (LogServer.With room) :=
  ⟨{ events := [.message "$3", .message "$2", .message "$0"], backToken := "t0"
     forwardToken := "t4" },
    RoomState.recalculate {}, late⟩

theorem reachable_paged :
    Reachable (LogServer.serving room) room (Grows (LogServer.historyOf room)) paged :=
  ⟨seeded, ⟨1, early, _, 0, rfl, rfl⟩, .single (.act (.page "" 0 10) rfl)⟩

theorem run_swept :
    Run (LogServer.serving room) room (Grows (LogServer.historyOf room)) paged swept := by
  have hgrown : Grows (LogServer.historyOf room) early late := ⟨[.message "$3"], rfl⟩
  exact .tail (.single (.grown hgrown)) (.act .forward rfl)

theorem mirrors_paged_and_swept :
    ∃ b f, Mirrors (LogServer.historyOf room paged.server) paged.timeline b f ∧
      ∃ b' ≤ b, ∃ f' ≥ f, Mirrors (LogServer.historyOf room swept.server) swept.timeline b' f' := by
  obtain ⟨b, f, hb, hrun⟩ := reachable_mirrors_log (LogServer.servesLog room) reachable_paged
  exact ⟨b, f, hb, hrun swept run_swept⟩

end RoomReader.SmallRoom
