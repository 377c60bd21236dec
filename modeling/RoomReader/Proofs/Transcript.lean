import RoomReader.Proofs.Exchange

namespace RoomReader

/-!
# Transcripts

A transcript lists homeserver calls with their answers. A homeserver can be made to note all calls
that it answers. An exchange is led by the answers alone: when it is given the same answers again,
it makes the same calls and comes to the same result.
-/

structure Answered where
  call : Call
  answer : Except ApiError call.Reply

namespace Homeserver

variable {σ : Type}

/-- The same homeserver, which keeps a transcript. -/
def recorded (hs : Homeserver σ) : Homeserver (σ × List Answered) :=
  ⟨fun c s =>
    match hs.respond c s.1 with
    | (some answer, s') => (some answer, s', s.2 ++ [⟨c, answer⟩])
    | (none, s') => (none, s', s.2)⟩

theorem recorded_respond_eq_some {hs : Homeserver σ} {c : Call} {s s' : σ × List Answered}
    {answer : Except ApiError c.Reply} :
    hs.recorded.respond c s = (some answer, s') ↔
      hs.respond c s.1 = (some answer, s'.1) ∧ s'.2 = s.2 ++ [⟨c, answer⟩] := by
  obtain ⟨s', transcript'⟩ := s'
  simp only [recorded]
  constructor
  · intro h
    split at h
    · cases h
      exact ⟨‹_›, rfl⟩
    · cases h
  · rintro ⟨h, rfl⟩
    simp only [h]

theorem recorded_respond_eq_none {hs : Homeserver σ} {c : Call} {s s' : σ × List Answered}
    (h : hs.recorded.respond c s = (none, s')) : s'.2 = s.2 := by
  simp only [recorded] at h
  split at h <;> cases h
  rfl

theorem ComesBack.recorded {hs : Homeserver σ} (hback : hs.ComesBack) : hs.recorded.ComesBack := by
  intro c s
  obtain ⟨answer, s', hc⟩ := hback c s.1
  exact ⟨answer, (s', _), recorded_respond_eq_some.2 ⟨hc, rfl⟩⟩

/-- A homeserver that gives the answers of a transcript again, as long as it is called alike. -/
def replay : Homeserver (List Answered) :=
  ⟨fun c answers =>
    match answers with
    | [] => (none, [])
    | a :: rest => if h : a.call = c then (some (h ▸ a.answer), rest) else (none, rest)⟩

end Homeserver

/-- Where two transcripts agree so far and go on with the same call, it is answered the same. -/
def SameAnswers (xs ys : List Answered) : Prop :=
  ∀ before c answer answer', before ++ [⟨c, answer⟩] <+: xs → before ++ [⟨c, answer'⟩] <+: ys →
    answer = answer'

/-- Answers that depend on nothing but the call are the same everywhere. -/
theorem sameAnswers_of_forall {f : (c : Call) → Except ApiError c.Reply} {xs ys : List Answered}
    (hx : ∀ a ∈ xs, a.answer = f a.call) (hy : ∀ a ∈ ys, a.answer = f a.call) :
    SameAnswers xs ys := by
  intro before c answer answer' h h'
  have hanswer := hx ⟨c, answer⟩ (h.subset (by simp))
  have hanswer' := hy ⟨c, answer'⟩ (h'.subset (by simp))
  exact hanswer.trans hanswer'.symm

theorem SameAnswers.mono {xs xs' ys ys' : List Answered} (hx : xs <+: xs') (hy : ys <+: ys')
    (h : SameAnswers xs' ys') : SameAnswers xs ys := by
  intro before c answer answer' hxs hys
  exact h before c answer answer' (hxs.trans hx) (hys.trans hy)

theorem SameAnswers.of_cons {a : Answered} {xs ys : List Answered}
    (h : SameAnswers (a :: xs) (a :: ys)) : SameAnswers xs ys := by
  intro before c answer answer' hx hy
  exact h (a :: before) c answer answer' (List.cons_prefix_cons.2 ⟨rfl, hx⟩)
    (List.cons_prefix_cons.2 ⟨rfl, hy⟩)

namespace Exchange

variable {α β : Type}

/-- After these answers, this is what is left of an exchange. -/
inductive Reaches : Exchange α → List Answered → Exchange α → Prop
  | refl (x : Exchange α) : Reaches x [] x
  | answer {c : Call} {next : Except ApiError c.Reply → Exchange α}
      {answer : Except ApiError c.Reply} {transcript : List Answered} {y : Exchange α}
      (h : Reaches (next answer) transcript y) : Reaches (ask c next) (⟨c, answer⟩ :: transcript) y

theorem Reaches.trans {x y z : Exchange α} {xs ys : List Answered} (h : Reaches x xs y)
    (h' : Reaches y ys z) : Reaches x (xs ++ ys) z := by
  induction h with
  | refl x => exact h'
  | answer _ ih => exact .answer (ih h')

theorem Reaches.bind {x y : Exchange α} {xs : List Answered} (h : Reaches x xs y)
    (f : α → Exchange β) : Reaches (x >>= f) xs (y >>= f) := by
  induction h with
  | refl x => exact .refl _
  | answer _ ih => exact .answer ih

theorem Reaches.of_bind {x : Exchange α} {f : α → Exchange β} {zs : List Answered} {b : β}
    (h : Reaches (x >>= f) zs (done b)) :
    ∃ a xs ys, zs = xs ++ ys ∧ Reaches x xs (done a) ∧ Reaches (f a) ys (done b) := by
  induction x generalizing zs with
  | done a => exact ⟨a, [], zs, rfl, .refl _, h⟩
  | ask c next ih =>
      cases h with
      | @answer _ _ answer rest _ hrest =>
          obtain ⟨a, xs, ys, rfl, hx, hf⟩ := ih answer hrest
          exact ⟨a, _, ys, rfl, .answer hx, hf⟩

theorem Reaches.run_replay {x : Exchange α} {answers : List Answered} {a : α}
    (h : Reaches x answers (done a)) : x.run Homeserver.replay answers = (some a, []) := by
  generalize hdone : done a = y at h
  induction h with
  | refl x =>
      subst hdone
      rfl
  | @answer c next answer rest y _ ih =>
      rw [← ih hdone]
      refine run_ask_of_respond ?_
      exact dif_pos rfl

/-- What a run adds to the transcript is what led the exchange to its result. -/
theorem exists_reaches_of_run {σ : Type} {hs : Homeserver σ} {x : Exchange α} {a : α}
    {s s' : σ × List Answered} (h : x.run hs.recorded s = (some a, s')) :
    ∃ answers, s'.2 = s.2 ++ answers ∧ Reaches x answers (done a) := by
  induction x generalizing s with
  | done b =>
      cases h
      exact ⟨[], (List.append_nil _).symm, .refl _⟩
  | ask c next ih =>
      obtain ⟨answer, s₁, hc, hnext⟩ := run_ask_eq_some.1 h
      obtain ⟨answers, htranscript, hreaches⟩ := ih answer hnext
      obtain ⟨-, hnoted⟩ := Homeserver.recorded_respond_eq_some.1 hc
      refine ⟨⟨c, answer⟩ :: answers, ?_, .answer hreaches⟩
      rw [htranscript, hnoted, List.append_assoc, List.singleton_append]

/-- Up to a call that never comes back, a run goes as the answers lead it. -/
theorem exists_reaches_of_hang {σ : Type} {hs : Homeserver σ} {x : Exchange α}
    {s s' : σ × List Answered} (h : x.run hs.recorded s = (none, s')) :
    ∃ answers c next, s'.2 = s.2 ++ answers ∧ Reaches x answers (ask c next) := by
  induction x generalizing s with
  | done b => cases h
  | ask c next ih =>
      simp only [run] at h
      split at h
      · rename_i answer s₁ hc
        obtain ⟨answers, c', next', htranscript, hreaches⟩ := ih answer h
        obtain ⟨-, hnoted⟩ := Homeserver.recorded_respond_eq_some.1 hc
        refine ⟨⟨c, answer⟩ :: answers, c', next', ?_, .answer hreaches⟩
        rw [htranscript, hnoted, List.append_assoc, List.singleton_append]
      · rename_i s₁ hc
        cases h
        refine ⟨[], c, next, ?_, .refl _⟩
        rw [List.append_nil]
        exact Homeserver.recorded_respond_eq_none hc

/-- The answers decide over the calls and over the result. -/
theorem Reaches.eq_of_sameAnswers {x : Exchange α} {xs ys : List Answered} {a b : α}
    (ha : Reaches x xs (done a)) (hb : Reaches x ys (done b)) (h : SameAnswers xs ys) :
    xs = ys ∧ a = b := by
  generalize hdone : done a = y at ha
  induction ha generalizing ys with
  | refl x =>
      subst hdone
      cases hb
      exact ⟨rfl, rfl⟩
  | @answer c next answer transcript y _ ih =>
      cases hb with
      | answer hb =>
          obtain rfl := h [] c answer _ ⟨transcript, rfl⟩ ⟨_, rfl⟩
          obtain ⟨rfl, hab⟩ := ih hb h.of_cons hdone
          exact ⟨rfl, hab⟩

end Exchange

end RoomReader
