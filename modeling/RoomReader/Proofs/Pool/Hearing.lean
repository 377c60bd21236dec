import Mathlib.Data.List.Nodup
import RoomReader.Proofs.Pool.Crew
import RoomReader.Proofs.Pool.Tasks

namespace RoomReader

open Pool

/-!
# What is heard of a task

A requester waits as long as its request is queued or underway. It hears what the request came to,
or that the worker is not available if nothing can come any more. Whoever sent a sweep waits for all
of its shares, and then has the reports that came in, sorted by worker.
-/

namespace Pool

section

variable {settings : RoomSettings} {i ticket : Nat} {log : Log} {w : Worker}
  {u : Option (Nat × Underway)} {task : Task} {result : task.Result}

theorem Labours.begun_of_finished (h : Labours settings i log w u)
    (he : (ticket, .finished task result) ∈ log) : ⟨ticket, task⟩ ∈ log.begun := by
  rw [h.begun_eq]
  exact List.mem_append_left _ (Log.mem_finished.2 ⟨result, he⟩)

theorem Labours.exists_begun {p : Progress} (h : Labours settings i log w u)
    (he : (ticket, p) ∈ log) : ∃ task, ⟨ticket, task⟩ ∈ log.begun := by
  induction h with
  | start => cases he
  | @step log ticket' p' w w' u u' h hproceeds ih =>
      rw [Log.begun_append]
      rcases List.mem_append.1 he with he | he
      · obtain ⟨task, htask⟩ := ih he
        exact ⟨task, List.mem_append_left _ htask⟩
      · cases List.mem_singleton.1 he
        have hbegun := h.begun_eq
        cases hproceeds with
        | began task => exact ⟨task, List.mem_append_right _ (List.mem_singleton_self _)⟩
        | answered task => exact ⟨task, List.mem_append_left _ (by simp [hbegun])⟩
        | finished task => exact ⟨task, List.mem_append_left _ (by simp [hbegun])⟩

theorem Labours.workerId_of_mem {now : Time} {rule : SweepRule} {report : SweepReport}
    (h : Labours settings i log w u) (he : (ticket, .finished (.sweep now rule) report) ∈ log) :
    report.workerId = i := by
  induction h with
  | start => cases he
  | step h hproceeds ih =>
      rcases List.mem_append.1 he with he | he
      · exact ih he
      · cases List.mem_singleton.1 he
        cases hproceeds with
        | finished => exact h.does_of_finished.worker

theorem Labours.notMem_of_underway {v : Underway} (h : Labours settings i log w (some (ticket, v)))
    (hnodup : (log.begun.map Post.ticket).Nodup) : (ticket, .finished task result) ∉ log := by
  intro he
  have hfinished : (⟨ticket, task⟩ : Post) ∈ log.finished := Log.mem_finished.2 ⟨result, he⟩
  rw [h.begun_eq, List.map_append, List.nodup_append] at hnodup
  exact hnodup.2.2 ticket (List.mem_map_of_mem hfinished) ticket (List.mem_singleton_self _) rfl

theorem Labours.result_unique {result' : task.Result} (h : Labours settings i log w u)
    (hnodup : (log.begun.map Post.ticket).Nodup) (he : (ticket, .finished task result) ∈ log)
    (he' : (ticket, .finished task result') ∈ log) : result = result' := by
  induction h with
  | start => cases he
  | @step log ticket' p w w' u u' h hproceeds ih =>
      rw [Log.begun_append, List.map_append] at hnodup
      have hbefore := (List.nodup_append.1 hnodup).1
      have hends {result : task.Result} (hp : (ticket, .finished task result) = (ticket', p)) :
          ∀ result, (ticket, .finished task result) ∉ log := by
        intro result
        cases hp
        cases hproceeds with
        | finished => exact h.notMem_of_underway hbefore
      rcases List.mem_append.1 he with he | he <;> rcases List.mem_append.1 he' with he' | he'
      · exact ih hbefore he he'
      · exact absurd he (hends (List.mem_singleton.1 he') result)
      · exact absurd he' (hends (List.mem_singleton.1 he) result')
      · cases (List.mem_singleton.1 he).trans (List.mem_singleton.1 he').symm
        rfl

end

end Pool

namespace Crew

variable {σ : Type} {hs : Homeserver σ} {settings : RoomSettings} {numWorkers : Nat} {x y : Crew σ}
  {i j ticket : Nat} {job : Job}

def AtRest (x : Crew σ) (i : Nat) : Prop := x.queue i = [] ∧ x.underway i = none

def Awaits (x : Crew σ) (ticket : Nat) : Prop :=
  ∃ i, (∃ a ∈ x.queue i, a.ticket = ticket) ∨ ∃ u, x.underway i = some (ticket, u)

inductive Hears (x : Crew σ) (ticket : Nat) (job : Job) : Except RoomError job.Reply → Prop
  | replied {i : Nat} {now : Time} {result : Except RoomError job.Reply}
      (h : (ticket, .finished (.request now job) result) ∈ x.log i) : Hears x ticket job result
  | lost {i : Nat} {now : Time} (hsent : (i, ⟨ticket, .request now job⟩) ∈ x.sent)
      (hgone : ¬ x.Awaits ticket)
      (hnever : ∀ i now result, (ticket, .finished (.request now job) result) ∉ x.log i) :
      Hears x ticket job (.error .workerUnavailable)

/-- The reports on a sweep that came in, sorted by worker. -/
def reports (x : Crew σ) (ticket : Nat) : List SweepReport :=
  (x.history.filterMap (Note.report? ticket)).mergeSort fun a b => a.workerId ≤ b.workerId

/-- A sweep is over when every worker was sent its share and none is awaited any more. -/
structure Swept (x : Crew σ) (ticket : Nat) : Prop where
  addressed : x.addressed ticket = List.range x.pool.numWorkers
  sweeps : ∀ a ∈ x.sent, a.2.ticket = ticket → ∃ now rule, a.2.task = .sweep now rule
  gone : ¬ x.Awaits ticket

theorem mem_log {p : Progress} : (ticket, p) ∈ x.log i ↔ .progress i ticket p ∈ x.history := by
  simp only [log, List.mem_filterMap]
  constructor
  · rintro ⟨note, hnote, heq⟩
    cases note with
    | death => cases heq
    | progress j ticket' p' =>
        simp only [Note.progress?, Option.ite_none_right_eq_some, Option.some.injEq] at heq
        obtain ⟨rfl, heq⟩ := heq
        cases heq
        exact hnote
  · exact fun hnote => ⟨_, hnote, if_pos rfl⟩

theorem mem_posts {a : Post} : a ∈ x.posts i ↔ (i, a) ∈ x.sent := by
  simp [posts]

theorem not_awaits_of_forall_atRest (h : ∀ i, x.AtRest i) : ¬ x.Awaits ticket := by
  rintro ⟨i, ⟨a, ha, -⟩ | ⟨u, hu⟩⟩
  · rw [(h i).1] at ha
    cases ha
  · rw [(h i).2] at hu
    cases hu

theorem report?_eq_some {note : Note} {r : SweepReport} :
    note.report? ticket = some r ↔
      ∃ i now rule, note = .progress i ticket (.finished (.sweep now rule) r) := by
  constructor
  · intro h
    cases note with
    | death => cases h
    | progress i t p =>
        cases p with
        | began => cases h
        | answered => cases h
        | finished task result =>
            cases task with
            | request => cases h
            | sweep now rule =>
                rw [Note.report?, Option.ite_none_right_eq_some] at h
                obtain ⟨rfl, heq⟩ := h
                exact ⟨i, now, rule, Option.some.inj heq ▸ rfl⟩
  · rintro ⟨i, now, rule, rfl⟩
    exact if_pos rfl

theorem Ticketed.nodup (h : x.Ticketed) (i : Nat) : ((x.posts i).map Post.ticket).Nodup := by
  rw [posts, List.map_map, List.Nodup, List.pairwise_map]
  refine (h.differ.filter _).imp_of_mem fun {a b} ha hb hdiffer => hdiffer ?_
  have hsame := (List.mem_filter.1 ha).2
  have hsame' := (List.mem_filter.1 hb).2
  exact (beq_iff_eq.1 hsame).trans (beq_iff_eq.1 hsame').symm

namespace InOrder

variable {a : Post} {now : Time} {result : Except RoomError job.Reply}

theorem nodup_begun (h : x.InOrder settings) (i : Nat) :
    ((x.log i).begun.map Post.ticket).Nodup :=
  (h.ticketed.nodup i).sublist ((h.sound i).begun_isPrefix.sublist.map _)

theorem nodup_finished (h : x.InOrder settings) (i : Nat) :
    ((x.log i).finished.map Post.ticket).Nodup := by
  obtain ⟨_, _, hlabours⟩ := h.exists_labours i
  have hnodup := h.nodup_begun i
  rw [hlabours.begun_eq, List.map_append] at hnodup
  exact (List.nodup_append.1 hnodup).1

theorem sent_of_begun (h : x.InOrder settings) (ha : a ∈ (x.log i).begun) : (i, a) ∈ x.sent :=
  mem_posts.1 ((h.sound i).begun_isPrefix.subset ha)

theorem sent_of_queue (h : x.InOrder settings) (ha : a ∈ x.queue i) : (i, a) ∈ x.sent :=
  mem_posts.1 ((h.sound i).queue_subset ha)

theorem sent_of_finished {task : Task} {result : task.Result} (h : x.InOrder settings)
    (he : (ticket, .finished task result) ∈ x.log i) : (i, ⟨ticket, task⟩) ∈ x.sent := by
  obtain ⟨_, _, hlabours⟩ := h.exists_labours i
  exact h.sent_of_begun (hlabours.begun_of_finished he)

theorem exists_sent_of_awaits (h : x.InOrder settings) (hawaits : x.Awaits ticket) :
    ∃ i a, (i, a) ∈ x.sent ∧ a.ticket = ticket ∧ ¬ x.AtRest i := by
  obtain ⟨i, ⟨a, ha, rfl⟩ | ⟨u, hu⟩⟩ := hawaits
  · refine ⟨i, a, h.sent_of_queue ha, rfl, ?_⟩
    rintro ⟨hqueue, -⟩
    rw [hqueue] at ha
    cases ha
  · refine ⟨i, ⟨ticket, u.task⟩, h.sent_of_begun ((h.sound i).begun_of_underway hu), rfl, ?_⟩
    rintro ⟨-, hnone⟩
    rw [hnone] at hu
    cases hu

theorem not_awaits_of_atRest (h : x.InOrder settings) (hsent : (i, a) ∈ x.sent)
    (ha : a.task = .request now job) (hrest : x.AtRest i) : ¬ x.Awaits a.ticket := by
  intro hawaits
  obtain ⟨j, b, hb, hticket, hbusy⟩ := h.exists_sent_of_awaits hawaits
  cases h.ticketed.single _ hsent now job ha _ hb hticket
  exact hbusy hrest

theorem eq_of_finished {task : Task} (h : x.InOrder settings)
    (hsent : (i, ⟨ticket, .request now job⟩) ∈ x.sent) {result : task.Result}
    (he : (ticket, .finished task result) ∈ x.log j) : j = i ∧ task = .request now job := by
  cases h.ticketed.single _ hsent now job rfl _ (h.sent_of_finished he) rfl
  exact ⟨rfl, rfl⟩

/-- A requester hears one thing at most. -/
theorem hears_unique {result' : Except RoomError job.Reply} (h : x.InOrder settings)
    (hears : x.Hears ticket job result) (hears' : x.Hears ticket job result') :
    result = result' := by
  cases hears with
  | replied he =>
      cases hears' with
      | replied he' =>
          obtain ⟨rfl, htask⟩ := h.eq_of_finished (h.sent_of_finished he) he'
          cases htask
          obtain ⟨_, _, hlabours⟩ := h.exists_labours _
          exact hlabours.result_unique (h.nodup_begun _) he he'
      | lost _ _ hnever => exact (hnever _ _ _ he).elim
  | lost _ _ hnever =>
      cases hears' with
      | replied he' => exact (hnever _ _ _ he').elim
      | lost => rfl

/-! ## Workers that are alive -/

theorem finished_or_awaits (h : x.InOrder settings) (halive : x.alive i = true)
    (hsent : (i, a) ∈ x.sent) : a ∈ (x.log i).finished ∨ ¬ x.AtRest i ∧ x.Awaits a.ticket := by
  obtain ⟨w, hw⟩ := exists_of_alive halive
  obtain ⟨hlabours, hposts⟩ := h.labours hw
  have hmem : a ∈ x.posts i := mem_posts.2 hsent
  rw [hposts, hlabours.begun_eq] at hmem
  rcases List.mem_append.1 hmem with hmem | hqueue
  · rcases List.mem_append.1 hmem with hfinished | hunderway
    · exact .inl hfinished
    · obtain ⟨v, hv, rfl⟩ := Option.map_eq_some_iff.1 (Option.mem_toList.1 hunderway)
      refine .inr ⟨fun hrest => ?_, i, .inr ⟨v.2, hv⟩⟩
      exact Option.some_ne_none v (hv.symm.trans hrest.2)
  · refine .inr ⟨fun hrest => ?_, i, .inl ⟨a, hqueue, rfl⟩⟩
    rw [hrest.1] at hqueue
    cases hqueue

theorem finished_of_hears (h : x.InOrder settings) (halive : x.alive i = true)
    (hsent : (i, ⟨ticket, .request now job⟩) ∈ x.sent) (hears : x.Hears ticket job result) :
    (ticket, .finished (.request now job) result) ∈ x.log i := by
  cases hears with
  | replied he =>
      obtain ⟨rfl, htask⟩ := h.eq_of_finished hsent he
      cases htask
      exact he
  | lost _ hgone hnever =>
      rcases h.finished_or_awaits halive hsent with hfinished | ⟨-, hawaits⟩
      · obtain ⟨result, he⟩ := Log.mem_finished.1 hfinished
        exact absurd he (hnever i now result)
      · exact absurd hawaits hgone

theorem exists_hears_of_atRest (h : x.InOrder settings) (halive : x.alive i = true)
    (hsent : (i, ⟨ticket, .request now job⟩) ∈ x.sent) (hrest : x.AtRest i) :
    ∃ result, x.Hears ticket job result := by
  rcases h.finished_or_awaits halive hsent with hfinished | ⟨hbusy, -⟩
  · obtain ⟨result, he⟩ := Log.mem_finished.1 hfinished
    exact ⟨result, .replied he⟩
  · exact absurd hrest hbusy

/-- Two workers that live, were sent the same tasks and were given the same answers reply the same,
whatever became of the other workers. -/
theorem eq_of_sameAnswers {τ : Type} {y : Crew τ} {result' : Except RoomError job.Reply}
    (h : x.InOrder settings) (h' : y.InOrder settings) (halive : x.alive i = true)
    (halive' : y.alive i = true) (hposts : y.posts i = x.posts i)
    (hanswers : SameAnswers (x.log i).answers (y.log i).answers)
    (hsent : (i, ⟨ticket, .request now job⟩) ∈ x.sent) (hears : x.Hears ticket job result)
    (hears' : y.Hears ticket job result') : result' = result := by
  have hsent' : (i, ⟨ticket, .request now job⟩) ∈ y.sent :=
    mem_posts.1 (hposts ▸ mem_posts.2 hsent)
  have he := h.finished_of_hears halive hsent hears
  have he' := h'.finished_of_hears halive' hsent' hears'
  obtain ⟨_, _, hlabours⟩ := h.exists_labours i
  obtain ⟨_, _, hlabours'⟩ := h'.exists_labours i
  have hbegun : (y.log i).begun <+: x.posts i := hposts ▸ (h'.sound i).begun_isPrefix
  -- One log goes on from the other, so both results are on the longer one.
  rcases hlabours.prefix_or_prefix hlabours' (h.sound i).begun_isPrefix hbegun hanswers with hle | hle
  · exact hlabours'.result_unique (h'.nodup_begun i) he' (hle.subset he)
  · exact hlabours.result_unique (h.nodup_begun i) (hle.subset he') he

/-! ## Dead workers -/

theorem atRest_of_dead (h : x.InOrder settings) (hdead : x.pool.workers[i]? = some none) :
    x.AtRest i := by
  rcases (h.sound i).rests_or_alive with hrest | ⟨w, hw⟩
  · exact hrest
  · cases hdead.symm.trans hw

/-- What a dead worker was sent and did not finish, other than the task that it died of, it never
touched. -/
theorem notMem_log_of_dead {u : Nat × Underway} {w : Worker} (h : x.InOrder settings)
    (hlabours : Labours settings i (x.log i) w (some u)) (hsent : (i, a) ∈ x.sent)
    (hnever : ∀ result, (a.ticket, .finished a.task result) ∉ x.log i) (hfatal : a.ticket ≠ u.1)
    (p : Progress) : (a.ticket, p) ∉ x.log i := by
  intro he
  obtain ⟨task, hbegun⟩ := hlabours.exists_begun he
  have hsame : a = ⟨a.ticket, task⟩ :=
    List.inj_on_of_nodup_map (h.ticketed.nodup i) (mem_posts.2 hsent)
      ((h.sound i).begun_isPrefix.subset hbegun) rfl
  rw [← hsame, hlabours.begun_eq] at hbegun
  rcases List.mem_append.1 hbegun with hfinished | hunderway
  · obtain ⟨result, he⟩ := Log.mem_finished.1 hfinished
    exact hnever result he
  · exact hfatal (congrArg Post.ticket (List.mem_singleton.1 hunderway))

theorem hears_iff_of_dead (h : x.InOrder settings) (hdead : x.pool.workers[i]? = some none)
    (hsent : (i, ⟨ticket, .request now job⟩) ∈ x.sent)
    (hnever : ∀ result, (ticket, .finished (.request now job) result) ∉ x.log i) :
    x.Hears ticket job result ↔ result = .error .workerUnavailable := by
  constructor
  · intro hears
    cases hears with
    | replied he =>
        obtain ⟨rfl, htask⟩ := h.eq_of_finished hsent he
        cases htask
        exact absurd he (hnever _)
    | lost => rfl
  · rintro rfl
    refine .lost hsent (h.not_awaits_of_atRest hsent rfl (h.atRest_of_dead hdead)) ?_
    intro j now' result he
    obtain ⟨rfl, htask⟩ := h.eq_of_finished hsent he
    cases htask
    exact hnever _ he

end InOrder

theorem Step.dead (hstep : Step hs settings x y) (hdead : x.pool.workers[i]? = some none) :
    y.pool.workers[i]? = some none ∧ y.log i = x.log i := by
  have hne {j : Nat} {w : Worker} (hworker : x.pool.workers[j]? = some (some w)) : j ≠ i := by
    rintro rfl
    cases hdead.symm.trans hworker
  cases hstep with
  | request | share | change => exact ⟨hdead, rfl⟩
  | @labour j ticket w w' u u' p queue s hworker hunderway hproceeds hsupply =>
      have hdesk := desk_advance_of_ne x (hne hworker) ticket p w' u' queue s
      exact ⟨(congrArg Desk.worker hdesk).trans hdead, congrArg Desk.log hdesk⟩
  | @die j ticket w task c next s hworker hunderway hdeath =>
      have hdesk := desk_die_of_ne x (hne hworker) ticket c s
      exact ⟨(congrArg Desk.worker hdesk).trans hdead, congrArg Desk.log hdesk⟩

theorem dead_of_run (hrun : Run hs settings x y) (hdead : x.pool.workers[i]? = some none) :
    y.pool.workers[i]? = some none ∧ y.log i = x.log i := by
  induction hrun with
  | refl => exact ⟨hdead, rfl⟩
  | tail _ hstep ih =>
      obtain ⟨hstill, hlog⟩ := hstep.dead ih.1
      exact ⟨hstill, hlog.trans ih.2⟩

end Crew

end RoomReader
