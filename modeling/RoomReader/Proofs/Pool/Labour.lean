import Mathlib.Data.List.Induction
import Mathlib.Data.Prod.Basic
import RoomReader.Proofs.Pool.Schedule

namespace RoomReader.Pool

/-!
# What one worker does

A worker's log says what it got on with, each time with the number of the task. The log decides over
the rooms that the worker holds and over what is left of its task. Two workers that are given the
same tasks and the same answers have the same log, as far as both have come.
-/

/-- A task on its way, with the number that it is known by. -/
structure Post where
  ticket : Nat
  task : Task
deriving DecidableEq, Repr

abbrev Log := List (Nat × Progress)

/-- A worker that started without rooms comes to this log. While it is amid a task its rooms are as
they were before. -/
inductive Labours (settings : RoomSettings) (i : Nat) :
    Log → Worker → Option (Nat × Underway) → Prop
  | start : Labours settings i [] {} none
  | step {log : Log} {ticket : Nat} {p : Progress} {w w' : Worker} {u u' : Option Underway}
      (h : Labours settings i log w (u.map (Prod.mk ticket)))
      (hproceeds : Proceeds settings i w u p w' u') :
      Labours settings i (log ++ [(ticket, p)]) w' (u'.map (Prod.mk ticket))

namespace Progress

def begun? : Progress → Option Task
  | began task _ => some task
  | _ => none

def answered? : Progress → Option Answered
  | answered a => some a
  | _ => none

def finished? : Progress → Option Task
  | finished task _ => some task
  | _ => none

end Progress

namespace Log

def begun (log : Log) : List Post := log.filterMap fun e => e.2.begun?.map (Post.mk e.1)

def answers (log : Log) : List Answered := log.filterMap fun e => e.2.answered?

def finished (log : Log) : List Post := log.filterMap fun e => e.2.finished?.map (Post.mk e.1)

variable {log later : Log}

theorem begun_append : begun (log ++ later) = log.begun ++ later.begun := List.filterMap_append

theorem answers_append : answers (log ++ later) = log.answers ++ later.answers :=
  List.filterMap_append

theorem finished_append : finished (log ++ later) = log.finished ++ later.finished :=
  List.filterMap_append

theorem mem_finished {a : Post} :
    a ∈ log.finished ↔ ∃ result, (a.ticket, .finished a.task result) ∈ log := by
  obtain ⟨ticket, task⟩ := a
  simp only [finished, List.mem_filterMap, Option.map_eq_some_iff, Prod.exists, Post.mk.injEq]
  constructor
  · rintro ⟨t, p, hmem, task', hp, rfl, rfl⟩
    cases p with
    | began => cases hp
    | answered => cases hp
    | finished task result =>
        cases hp
        exact ⟨result, hmem⟩
  · rintro ⟨result, hmem⟩
    exact ⟨_, _, hmem, _, rfl, rfl, rfl⟩

end Log

section

variable {settings : RoomSettings} {i ticket : Nat} {log log' later : Log} {w w' : Worker}
  {u u' : Option (Nat × Underway)} {p : Progress}

/-- What is kept by every task, if it holds at the start, holds at any time, and what a task comes
to is true of what is left of it. -/
theorem Labours.invariant {I : Worker → Prop} {P : Worker → Task → Call → Prop}
    {Q : Worker → (task : Task) → task.Result × Worker → Prop} (hstart : I {})
    (hperform : ∀ w, I w → ∀ task, (perform settings i w task).Within (P w task) (Q w task))
    (hkeep : ∀ w task q, I w → Q w task q → I q.2) (h : Labours settings i log w u) :
    I w ∧ ∀ v ∈ u, v.2.rest.Within (P w v.2.task) (Q w v.2.task) := by
  induction h with
  | start => exact ⟨hstart, nofun⟩
  | step h hproceeds ih =>
      obtain ⟨hw, hrest⟩ := ih
      cases hproceeds with
      | began task =>
          refine ⟨hw, ?_⟩
          rintro v ⟨⟩
          exact hperform _ hw task
      | answered task c next answer =>
          refine ⟨hw, ?_⟩
          rintro v ⟨⟩
          cases hrest _ rfl with
          | ask _ hnext => exact hnext answer
      | finished task result w' =>
          cases hrest _ rfl with
          | done hresult => exact ⟨hkeep _ task _ hw hresult, nofun⟩

theorem Labours.begun_eq (h : Labours settings i log w u) :
    log.begun = log.finished ++ (u.map fun v => Post.mk v.1 v.2.task).toList := by
  induction h with
  | start => rfl
  | step h hproceeds ih =>
      rw [Log.begun_append, Log.finished_append, ih]
      cases hproceeds <;> simp [Log.begun, Log.finished, Progress.begun?, Progress.finished?]

theorem Labours.of_snoc (h : Labours settings i (log ++ [(ticket, p)]) w' u') :
    ∃ w v v', Labours settings i log w (v.map (Prod.mk ticket)) ∧
      Proceeds settings i w v p w' v' ∧ u' = v'.map (Prod.mk ticket) := by
  generalize hlog : log ++ [(ticket, p)] = whole at h
  cases h with
  | start => exact absurd hlog (by simp)
  | step h hproceeds =>
      obtain ⟨rfl, hlast⟩ := List.append_inj' hlog rfl
      cases hlast
      exact ⟨_, _, _, h, hproceeds, rfl⟩

theorem Labours.of_append (h : Labours settings i (log ++ later) w u) :
    ∃ w' u', Labours settings i log w' u' := by
  induction later using List.reverseRecOn generalizing w u with
  | nil => exact ⟨w, u, by rwa [List.append_nil] at h⟩
  | append_singleton later e ih =>
      rw [← List.append_assoc] at h
      obtain ⟨_, _, _, hbefore, -, -⟩ := h.of_snoc
      exact ih hbefore

/-- The log decides over everything else. -/
theorem Labours.unique (h : Labours settings i log w u) (h' : Labours settings i log w' u') :
    w = w' ∧ u = u' := by
  induction h generalizing w' u' with
  | start =>
      generalize hlog : ([] : Log) = whole at h'
      cases h' with
      | start => exact ⟨rfl, rfl⟩
      | step => exact absurd hlog (by simp)
  | step h hproceeds ih =>
      obtain ⟨_, _, _, hbefore, hproceeds', rfl⟩ := h'.of_snoc
      obtain ⟨rfl, hunderway⟩ := ih hbefore
      have hinj := Option.map_injective (Prod.mk_right_injective _) hunderway
      subst hinj
      cases hproceeds <;> cases hproceeds' <;> exact ⟨rfl, rfl⟩

/-- The same tasks and the same answers give the same log, as far as both workers have come. -/
theorem Labours.prefix_or_prefix {posts : List Post} (h : Labours settings i log w u)
    (h' : Labours settings i log' w' u') (hbegun : log.begun <+: posts)
    (hbegun' : log'.begun <+: posts) (hanswers : SameAnswers log.answers log'.answers) :
    log <+: log' ∨ log' <+: log := by
  induction h with
  | start => exact .inl (List.nil_prefix ..)
  | @step log ticket p w w₁ u u₁ h hproceeds ih =>
      rw [Log.begun_append] at hbegun
      rw [Log.answers_append] at hanswers
      have hbefore := ih ((List.prefix_append ..).trans hbegun)
        (hanswers.mono (List.prefix_append ..) (List.prefix_refl _))
      rcases hbefore with ⟨rest, rfl⟩ | hshorter
      · cases rest with
        | nil => exact .inr (by simp)
        | cons e rest =>
            left
            -- The second log goes on, and its next entry can only be the one that the first goes on with.
            obtain ⟨ticket', p'⟩ := e
            have hsplit : log ++ (ticket', p') :: rest = (log ++ [(ticket', p')]) ++ rest := by simp
            rw [hsplit] at h' hbegun' hanswers ⊢
            obtain ⟨_, _, h'⟩ := h'.of_append
            obtain ⟨_, _, _, hbefore, hproceeds', -⟩ := h'.of_snoc
            obtain ⟨rfl, hunderway⟩ := h.unique hbefore
            rw [Log.begun_append, Log.begun_append] at hbegun'
            rw [Log.answers_append, Log.answers_append] at hanswers
            have hsame : (ticket, p) = (ticket', p') := by
              cases hproceeds with
              | began task =>
                  obtain rfl := Option.map_eq_none_iff.1 hunderway.symm
                  cases hproceeds' with
                  | began task' =>
                      have hnext : [Post.mk ticket task] <+: [Post.mk ticket' task'] := by
                        refine (List.prefix_append_right_inj log.begun).1 ?_
                        refine List.prefix_of_prefix_length_le hbegun
                          ((List.prefix_append ..).trans hbegun') ?_
                        simp [Log.begun, Progress.begun?]
                      cases (List.cons_prefix_cons.1 hnext).1
                      rfl
              | answered task c next answer =>
                  obtain ⟨u, rfl, hu⟩ := Option.map_eq_some_iff.1 hunderway.symm
                  cases hu
                  cases hproceeds' with
                  | answered _ _ _ answer' =>
                      have hanswer : answer = answer' := hanswers log.answers c answer answer'
                        (List.prefix_refl _) (List.prefix_append ..)
                      rw [hanswer]
              | finished task result =>
                  obtain ⟨u, rfl, hu⟩ := Option.map_eq_some_iff.1 hunderway.symm
                  cases hu
                  cases hproceeds'
                  rfl
            exact hsame ▸ List.prefix_append ..
      · exact .inr (hshorter.trans (List.prefix_append ..))

end

end RoomReader.Pool
