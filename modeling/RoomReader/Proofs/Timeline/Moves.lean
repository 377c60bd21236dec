import Mathlib.Logic.Relation
import RoomReader.Proofs.Timeline.Fetch
import RoomReader.Room.Basic

namespace RoomReader.Timeline

/-!
# What a use of a timeline can do

Whatever is done with a timeline comes down to moves: a homeserver call that is answered with older
or with newer events, or one that fails. What all moves keep is therefore kept by all uses, in any
order, and by the growth of the homeserver's log between them.
-/

/-- A timeline with its room's state, and the homeserver that both are fed from. -/
structure Config (σ : Type) where
  timeline : Timeline
  state : RoomState
  server : σ

/-- What can be done with a timeline. -/
inductive Use
  | page (anchor : String) (offset : Int) (pageSize : Nat)
  | back (amount : Nat)
  | forward
deriving DecidableEq, Repr

/-- The timeline and the state after a use; what the use returns is left out. -/
def Use.act (room : String) : Use → Timeline → RoomState → Exchange (Timeline × RoomState)
  | page anchor offset pageSize, t, st => do
    let (_, t) ← t.getPage room anchor offset pageSize
    return (t, st)
  | back amount, t, st => do
    let (_, t) ← t.backpaginate room amount
    return (t, st)
  | forward, t, st => do
    let (_, t, st) ← t.forwardPaginate room st
    return (t, st)

section

variable {σ : Type} (hs : Homeserver σ) (room : String) (grow : σ → σ → Prop)

/-- One use of the timeline, or growth at the homeserver. -/
inductive Step : Config σ → Config σ → Prop
  | act {t t' : Timeline} {st st' : RoomState} {s s' : σ} (use : Use)
      (h : (use.act room t st).run hs s = (some (t', st'), s')) : Step ⟨t, st, s⟩ ⟨t', st', s'⟩
  | grown {t : Timeline} {st : RoomState} {s s' : σ} (h : grow s s') :
      Step ⟨t, st, s⟩ ⟨t, st, s'⟩

abbrev Run : Config σ → Config σ → Prop := Relation.ReflTransGen (Step hs room grow)

/-- A timeline that has just been made from an initial sync of some limit. -/
def Seeded (x : Config σ) : Prop :=
  ∃ limit s sync now, hs.respond (.sync room limit) s = (some (.ok sync), x.server) ∧
    x.timeline = (Room.ofSync room now sync).timeline

/-- A timeline that was seeded once and has been in use since. -/
def Reachable (x : Config σ) : Prop := ∃ x₀, Seeded hs room x₀ ∧ Run hs room grow x₀ x

/-- One homeserver call of a timeline with what follows from its answer, or growth of the log. -/
inductive Move : Config σ → Config σ → Prop
  | older {t : Timeline} {st : RoomState} {s s' : σ} {limit : Nat} {m : Messages}
      (hlimit : minimumPagination ≤ limit)
      (h : hs.respond (.messages room t.backToken .backward limit) s = (some (.ok m), s')) :
      Move ⟨t, st, s⟩ ⟨t.extendBack m, st, s'⟩
  | newer {t : Timeline} {st : RoomState} {s s' : σ} {m : Messages}
      (h : hs.respond (.messages room t.forwardToken .forward minimumPagination) s =
        (some (.ok m), s')) :
      Move ⟨t, st, s⟩ ⟨t.extendForward m, foldForward st m, s'⟩
  | failed {t : Timeline} {st : RoomState} {s s' : σ} {c : Call} {e : ApiError}
      (h : hs.respond c s = (some (.error e), s')) : Move ⟨t, st, s⟩ ⟨t, st, s'⟩
  | grown {t : Timeline} {st : RoomState} {s s' : σ} (h : grow s s') :
      Move ⟨t, st, s⟩ ⟨t, st, s'⟩

abbrev Moves : Config σ → Config σ → Prop := Relation.ReflTransGen (Move hs room grow)

end

variable {σ : Type} {hs : Homeserver σ} {room : String} {grow : σ → σ → Prop}
  {t t' : Timeline} {st st' : RoomState} {s s' : σ}

theorem move_of_backpaginate {amount : Nat} {r : Except ApiError Nat}
    (h : (t.backpaginate room amount).run hs s = (some (r, t'), s')) :
    Move hs room grow ⟨t, st, s⟩ ⟨t', st, s'⟩ := by
  simp only [backpaginate, Exchange.messages_bind] at h
  obtain ⟨reply, s₁, hc, h⟩ := Exchange.run_ask_eq_some.1 h
  cases reply with
  | error e =>
      cases h
      exact .failed hc
  | ok m =>
      cases h
      exact .older (Nat.le_max_right _ _) hc

theorem move_of_forwardPaginate {r : Except ApiError Nat}
    (h : (t.forwardPaginate room st).run hs s = (some (r, t', st'), s')) :
    Move hs room grow ⟨t, st, s⟩ ⟨t', st', s'⟩ := by
  simp only [forwardPaginate, Exchange.messages_bind] at h
  obtain ⟨reply, s₁, hc, h⟩ := Exchange.run_ask_eq_some.1 h
  cases reply with
  | error e =>
      cases h
      exact .failed hc
  | ok m =>
      cases h
      exact .newer hc

theorem Fetch.move {p q : Timeline × σ} (h : Fetch hs room p q) :
    Move hs room grow ⟨p.1, st, p.2⟩ ⟨q.1, st, q.2⟩ := by
  cases h with
  | older _ hlimit hc => exact .older hlimit hc
  | failed hc => exact .failed hc

theorem moves_of_getPage {anchor : String} {offset : Int} {pageSize : Nat}
    {r : Except RoomError EventPage}
    (h : (t.getPage room anchor offset pageSize).run hs s = (some (r, t'), s')) :
    Moves hs room grow ⟨t, st, s⟩ ⟨t', st, s'⟩ := by
  have hfetches := (fetches_of_getPage h).1
  exact hfetches.lift (fun p => Config.mk p.1 st p.2) fun _ _ => Fetch.move

theorem moves_of_step {x y : Config σ} (h : Step hs room grow x y) : Moves hs room grow x y := by
  cases h with
  | act use h =>
      cases use with
      | page anchor offset pageSize =>
          obtain ⟨⟨r, t₁⟩, s₁, hpage, h⟩ := Exchange.run_bind_eq_some.1 h
          cases h
          exact moves_of_getPage hpage
      | back amount =>
          obtain ⟨⟨r, t₁⟩, s₁, hback, h⟩ := Exchange.run_bind_eq_some.1 h
          cases h
          exact .single (move_of_backpaginate hback)
      | forward =>
          obtain ⟨⟨r, t₁, st₁⟩, s₁, hforward, h⟩ := Exchange.run_bind_eq_some.1 h
          cases h
          exact .single (move_of_forwardPaginate hforward)
  | grown h => exact .single (.grown h)

theorem moves_of_run {x y : Config σ} (h : Run hs room grow x y) : Moves hs room grow x y := by
  induction h with
  | refl => exact .refl
  | tail _ hstep ih => exact ih.trans (moves_of_step hstep)

end RoomReader.Timeline
