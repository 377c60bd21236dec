import RoomReader.Proofs.Projection

namespace RoomReader

/-!
# Exchanges that go by a state

An exchange may be seen to go by a state, into which every answer is taken: the state says which
call can be made, and what the exchange comes to. What a failed call leads to is told separately.
-/

/-- How the answers are taken into a state, and the calls that are made in it. -/
structure Guide (S : Type) where
  take : S → Answered → S
  asks : S → Call → Prop

namespace Exchange

variable {S T α β : Type} {g : Guide S} {g' : Guide T} {fails : S → ApiError → Exchange α → Prop}
  {Q : S → α → Prop} {s : S} {x y : Exchange α}

inductive Tracks (g : Guide S) (fails : S → ApiError → Exchange α → Prop) (Q : S → α → Prop) :
    S → Exchange α → Prop
  | done {s : S} {a : α} (h : Q s a) : Tracks g fails Q s (done a)
  | ask {s : S} {c : Call} {next : Except ApiError c.Reply → Exchange α} (hc : g.asks s c)
      (hfail : ∀ e, fails s e (next (.error e)))
      (h : ∀ answer, Tracks g fails Q (g.take s ⟨c, answer⟩) (next answer)) :
      Tracks g fails Q s (ask c next)

theorem Tracks.bind {fails' : S → ApiError → Exchange β → Prop} {Q' : S → β → Prop}
    {f : α → Exchange β} (h : x.Tracks g fails Q s)
    (hfails : ∀ s e x, fails s e x → fails' s e (x >>= f))
    (hf : ∀ s a, Q s a → (f a).Tracks g fails' Q' s) : (x >>= f).Tracks g fails' Q' s := by
  induction h with
  | done h => exact hf _ _ h
  | ask hc hfail _ ih => exact .ask hc (fun e => hfails _ _ _ (hfail e)) ih

/-- Each state stands for another one. -/
theorem Tracks.lift {fails' : T → ApiError → Exchange α → Prop} {Q' : T → α → Prop} (φ : S → T)
    (h : x.Tracks g fails Q s)
    (htake : ∀ s c answer, g.asks s c → g'.take (φ s) ⟨c, answer⟩ = φ (g.take s ⟨c, answer⟩))
    (hasks : ∀ s c, g.asks s c → g'.asks (φ s) c)
    (hfails : ∀ s e x, fails s e x → fails' (φ s) e x) (hQ : ∀ s a, Q s a → Q' (φ s) a) :
    x.Tracks g' fails' Q' (φ s) := by
  induction h with
  | done h => exact .done (hQ _ _ h)
  | ask hc hfail _ ih =>
      refine .ask (hasks _ _ hc) (fun e => hfails _ _ _ (hfail e)) fun answer => ?_
      rw [htake _ _ _ hc]
      exact ih answer

theorem Tracks.of_reaches {answers : List Answered} (h : x.Tracks g fails Q s)
    (hreaches : x.Reaches answers y) : y.Tracks g fails Q (answers.foldl g.take s) := by
  induction hreaches generalizing s with
  | refl => exact h
  | answer _ ih =>
      cases h with
      | ask _ _ h => exact ih (h _)

/-- The calls of an exchange may leave the state as it is. -/
theorem Within.tracks {p : Call → Prop} {P : α → Prop} (h : x.Within p P)
    (htake : ∀ c answer, p c → g.take s ⟨c, answer⟩ = s) (hasks : ∀ c, p c → g.asks s c)
    (hQ : ∀ a, P a → Q s a) : x.Tracks g (fun _ _ _ => True) Q s := by
  induction h with
  | done h => exact .done (hQ _ h)
  | ask hc _ ih =>
      refine .ask (hasks _ hc) (fun _ => trivial) fun answer => ?_
      rw [htake _ _ hc]
      exact ih answer

end Exchange

end RoomReader
