import RoomReader.Homeserver.Exchange

namespace RoomReader

/-!
# Runs of exchanges

A run of a composed exchange is a run of its first part, followed by a run of what its result
leads to.
-/

/-- Every call comes back, with a reply or with an error. -/
def Homeserver.ComesBack {σ : Type} (hs : Homeserver σ) : Prop :=
  ∀ c s, ∃ reply s', hs.respond c s = (some reply, s')

namespace Exchange

variable {α β σ : Type} {hs : Homeserver σ}

@[simp] theorem pure_eq_done (a : α) : (pure a : Exchange α) = done a := rfl

@[simp] theorem done_bind (a : α) (f : α → Exchange β) : (done a >>= f) = f a := rfl

@[simp] theorem messages_bind (room fromToken : String) (direction : Direction) (limit : Nat)
    (f : Except ApiError Messages → Exchange β) :
    (messages room fromToken direction limit >>= f) =
      ask (.messages room fromToken direction limit) f := rfl

theorem bind_done (x : Exchange α) : (x >>= done) = x := by
  induction x with
  | done a => rfl
  | ask c next ih => exact congrArg (ask c) (funext ih)

theorem bind_assoc {γ : Type} (x : Exchange α) (f : α → Exchange β) (g : β → Exchange γ) :
    ((x >>= f) >>= g) = x >>= fun a => f a >>= g := by
  induction x with
  | done a => rfl
  | ask c next ih => exact congrArg (ask c) (funext ih)

/-- A composed exchange comes to a result exactly when both of its parts do. -/
theorem run_bind_eq_some {x : Exchange α} {f : α → Exchange β} {s s'' : σ} {b : β} :
    (x >>= f).run hs s = (some b, s'') ↔
      ∃ a s', x.run hs s = (some a, s') ∧ (f a).run hs s' = (some b, s'') := by
  change (x.bind f).run hs s = _ ↔ _
  rw [run_bind]
  constructor
  · intro h
    split at h
    · exact ⟨_, _, ‹_›, h⟩
    · cases h
  · rintro ⟨a, s', hx, hf⟩
    simp only [hx, hf]

theorem run_bind_of_run {x : Exchange α} {f : α → Exchange β} {s s' : σ} {a : α}
    (h : x.run hs s = (some a, s')) : (x >>= f).run hs s = (f a).run hs s' := by
  change (x.bind f).run hs s = _
  rw [run_bind, h]

theorem run_ask_eq_some {c : Call} {next : Except ApiError c.Reply → Exchange α} {s s'' : σ}
    {a : α} :
    (ask c next).run hs s = (some a, s'') ↔
      ∃ reply s', hs.respond c s = (some reply, s') ∧ (next reply).run hs s' = (some a, s'') := by
  simp only [run]
  constructor
  · intro h
    split at h
    · exact ⟨_, _, ‹_›, h⟩
    · cases h
  · rintro ⟨reply, s', hc, hnext⟩
    simp only [hc, hnext]

theorem run_ask_of_respond {c : Call} {next : Except ApiError c.Reply → Exchange α} {s s' : σ}
    {reply : Except ApiError c.Reply} (h : hs.respond c s = (some reply, s')) :
    (ask c next).run hs s = (next reply).run hs s' := by
  simp only [run, h]

/-- An exchange with a homeserver that comes back comes to a result. -/
theorem exists_run (hback : hs.ComesBack) (x : Exchange α) (s : σ) : ∃ a s', x.run hs s = (some a, s') := by
  induction x generalizing s with
  | done a => exact ⟨a, s, rfl⟩
  | ask c next ih =>
      obtain ⟨reply, s', hc⟩ := hback c s
      obtain ⟨a, s'', hnext⟩ := ih reply s'
      exact ⟨a, s'', (run_ask_of_respond hc).trans hnext⟩

end Exchange

end RoomReader
