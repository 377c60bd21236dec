import RoomReader.Proofs.Transcript

namespace RoomReader

/-!
# Exchanges seen from one side

Of the calls of an exchange some may be of interest and others not. An exchange shows another one if
the other is what remains of it without the calls that are of no interest. Whatever answers are
given to all calls, the other exchange then makes the calls of interest, in the same order.
-/

namespace Exchange

variable {α β γ δ : Type} {p own : Call → Prop} {Q : α → Prop} {R : α → β → Prop}

/-- All calls of the exchange have one property, and its result has another. -/
inductive Within (p : Call → Prop) (Q : α → Prop) : Exchange α → Prop
  | done {a : α} (h : Q a) : Within p Q (done a)
  | ask {c : Call} {next : Except ApiError c.Reply → Exchange α} (hc : p c)
      (h : ∀ answer, Within p Q (next answer)) : Within p Q (ask c next)

/-- The second exchange is the first one without the calls that are not its own, and related results
are reached. -/
inductive Shows (own : Call → Prop) (R : α → β → Prop) : Exchange α → Exchange β → Prop
  | done {a : α} {b : β} (h : R a b) : Shows own R (done a) (done b)
  | own {c : Call} {next : Except ApiError c.Reply → Exchange α}
      {next' : Except ApiError c.Reply → Exchange β} (hc : own c)
      (h : ∀ answer, Shows own R (next answer) (next' answer)) :
      Shows own R (ask c next) (ask c next')
  | other {c : Call} {next : Except ApiError c.Reply → Exchange α} {y : Exchange β} (hc : ¬ own c)
      (h : ∀ answer, Shows own R (next answer) y) : Shows own R (ask c next) y

theorem Within.mono {p' : Call → Prop} {Q' : α → Prop} {x : Exchange α} (h : x.Within p Q)
    (hp : ∀ c, p c → p' c) (hQ : ∀ a, Q a → Q' a) : x.Within p' Q' := by
  induction h with
  | done h => exact .done (hQ _ h)
  | ask hc _ ih => exact .ask (hp _ hc) ih

/-- Two properties of all results are those of some result. -/
theorem Within.exists_both {p' : Call → Prop} {Q' : α → Prop} {x : Exchange α} (h : x.Within p Q)
    (h' : x.Within p' Q') : ∃ a, Q a ∧ Q' a := by
  induction h with
  | done h =>
      cases h' with
      | done h' => exact ⟨_, h, h'⟩
  | ask _ _ ih =>
      cases h' with
      | ask _ h' => exact ih (.error (.decode "")) (h' _)

theorem Within.bind {Q' : β → Prop} {x : Exchange α} {f : α → Exchange β} (h : x.Within p Q)
    (hf : ∀ a, Q a → (f a).Within p Q') : (x >>= f).Within p Q' := by
  induction h with
  | done h => exact hf _ h
  | ask hc _ ih => exact .ask hc ih

/-- The result of a run has the property of all results. -/
theorem Within.of_run {σ : Type} {hs : Homeserver σ} {x : Exchange α} {s s' : σ} {a : α}
    (h : x.Within p Q) (hrun : x.run hs s = (some a, s')) : Q a := by
  induction h generalizing s with
  | done h =>
      cases hrun
      exact h
  | ask _ _ ih =>
      obtain ⟨answer, s₁, -, hnext⟩ := run_ask_eq_some.1 hrun
      exact ih answer hnext

/-- A property of whatever results there are is a property of all results. -/
theorem within_of_reaches {x : Exchange α}
    (h : ∀ answers a, x.Reaches answers (done a) → Q a) : x.Within (fun _ => True) Q := by
  induction x with
  | done a => exact .done (h [] a (.refl _))
  | ask c next ih =>
      exact .ask trivial fun answer => ih answer fun answers a hreaches =>
        h _ a (.answer hreaches)

theorem Shows.bind {S : γ → δ → Prop} {x : Exchange α} {y : Exchange β} {f : α → Exchange γ}
    {g : β → Exchange δ} (h : x.Shows own R y) (hf : ∀ a b, R a b → (f a).Shows own S (g b)) :
    (x >>= f).Shows own S (y >>= g) := by
  induction h with
  | done h => exact hf _ _ h
  | own hc _ ih => exact .own hc ih
  | other hc _ ih => exact .other hc ih

theorem Within.shows_self {x : Exchange α} (h : x.Within own Q) :
    x.Shows own (fun a b => a = b ∧ Q a) x := by
  induction h with
  | done h => exact .done ⟨rfl, h⟩
  | ask hc _ ih => exact .own hc ih

theorem Within.bind_shows {x : Exchange α} {f : α → Exchange γ} {y : Exchange β}
    {S : γ → β → Prop} (h : x.Within (fun c => ¬ own c) Q) (hf : ∀ a, Q a → (f a).Shows own S y) :
    (x >>= f).Shows own S y := by
  induction h with
  | done h => exact hf _ h
  | ask hc _ ih => exact .other hc ih

theorem Within.shows_done {x : Exchange α} {b : β} (h : x.Within (fun c => ¬ own c) Q)
    (hR : ∀ a, Q a → R a b) : x.Shows own R (.done b) := by
  induction h with
  | done h => exact .done (hR _ h)
  | ask hc _ ih => exact .other hc ih

theorem Shows.answer_own {c : Call} {next : Except ApiError c.Reply → Exchange α} {y : Exchange β}
    (h : (ask c next).Shows own R y) (hc : own c) (answer : Except ApiError c.Reply) :
    ∃ y', y.Reaches [⟨c, answer⟩] y' ∧ (next answer).Shows own R y' := by
  cases h with
  | own _ h => exact ⟨_, .answer (.refl _), h answer⟩
  | other hne _ => exact absurd hc hne

theorem Shows.answer_other {c : Call} {next : Except ApiError c.Reply → Exchange α}
    {y : Exchange β} (h : (ask c next).Shows own R y) (hc : ¬ own c)
    (answer : Except ApiError c.Reply) : (next answer).Shows own R y := by
  cases h with
  | own hown _ => exact absurd hown hc
  | other _ h => exact h answer

end Exchange

end RoomReader
