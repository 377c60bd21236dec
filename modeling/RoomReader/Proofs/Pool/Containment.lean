import Mathlib.Data.List.Sort
import RoomReader.Proofs.Pool.Recency
import RoomReader.Proofs.Pool.Settling

namespace RoomReader

open Pool

/-!
# Deaths among the workers

What a dead worker was to do is lost, and whoever waits for it is told. The other workers do as they
would have done had nobody died, and a sweep has a report of every worker that got through it.
-/

namespace Crew

variable {σ τ : Type} {hs hs' : Homeserver σ} {settings : RoomSettings} {numWorkers : Nat}
  {x x' : Crew σ} {i j ticket : Nat}

/-! ## Reports -/

namespace InOrder

theorem mem_reports (h : x.InOrder settings) {r : SweepReport} :
    r ∈ x.reports ticket ↔
      ∃ now rule, (ticket, .finished (.sweep now rule) r) ∈ x.log r.workerId := by
  have hperm : (x.reports ticket).Perm (x.history.filterMap (Note.report? ticket)) :=
    List.mergeSort_perm ..
  rw [hperm.mem_iff, List.mem_filterMap]
  constructor
  · rintro ⟨note, hnote, hreport⟩
    obtain ⟨i, now, rule, rfl⟩ := report?_eq_some.1 hreport
    obtain ⟨_, _, hlabours⟩ := h.exists_labours i
    have he := mem_log.2 hnote
    obtain rfl : r.workerId = i := hlabours.workerId_of_mem he
    exact ⟨now, rule, he⟩
  · rintro ⟨now, rule, he⟩
    exact ⟨_, mem_log.1 he, report?_eq_some.2 ⟨_, now, rule, rfl⟩⟩

theorem nodup_reports (h : x.InOrder settings) (ticket : Nat) :
    ((x.reports ticket).map (·.workerId)).Nodup := by
  have hperm : (x.reports ticket).Perm (x.history.filterMap (Note.report? ticket)) :=
    List.mergeSort_perm ..
  rw [(hperm.map _).nodup_iff, List.Nodup, List.pairwise_map, List.pairwise_filterMap]
  refine List.pairwise_iff_forall_sublist.2 fun {a b} hsub r hr r' hr' hsame => ?_
  obtain ⟨i, now, rule, rfl⟩ := report?_eq_some.1 hr
  obtain ⟨j, now', rule', rfl⟩ := report?_eq_some.1 hr'
  have hi : Note.progress i ticket (.finished (.sweep now rule) r) ∈ x.history :=
    hsub.subset List.mem_cons_self
  have hj : Note.progress j ticket (.finished (.sweep now' rule') r') ∈ x.history :=
    hsub.subset (List.mem_cons_of_mem _ List.mem_cons_self)
  obtain ⟨_, _, hlabours⟩ := h.exists_labours i
  obtain ⟨_, _, hlabours'⟩ := h.exists_labours j
  have hworker := hlabours.workerId_of_mem (mem_log.2 hi)
  have hworker' := hlabours'.workerId_of_mem (mem_log.2 hj)
  obtain rfl : i = j := (hworker.symm.trans hsame).trans hworker'
  -- Two reports of one worker would be two ends on its log under one number.
  have htwice := ((hsub.filterMap (Note.progress? i)).filterMap fun e =>
    e.2.finished?.map (Post.mk e.1)).map Post.ticket
  have htwo := (h.nodup_finished i).sublist htwice
  simp [Note.progress?, Progress.finished?] at htwo

/-- The reports on a sweep are those of the workers that got through it, in their order. -/
theorem map_workerId_reports (h : x.InOrder settings) (hswept : x.Swept ticket) :
    (x.reports ticket).map (·.workerId) = (List.range x.pool.numWorkers).filter fun i =>
      (x.log i).finished.any (·.ticket == ticket) := by
  have hsorted : ((x.reports ticket).map (·.workerId)).Pairwise (· < ·) := by
    have hle : (x.reports ticket).Pairwise fun a b => decide (a.workerId ≤ b.workerId) = true := by
      refine List.pairwise_mergeSort ?_ ?_ _
      · intro a b c hab hbc
        exact decide_eq_true (Nat.le_trans (of_decide_eq_true hab) (of_decide_eq_true hbc))
      · intro a b
        rw [Bool.or_eq_true, decide_eq_true_iff, decide_eq_true_iff]
        exact Nat.le_total ..
    have hne := h.nodup_reports ticket
    rw [List.Nodup, List.pairwise_map] at hne
    rw [List.pairwise_map]
    exact hle.imp₂ (fun _ _ hab hne => Nat.lt_of_le_of_ne (of_decide_eq_true hab) hne) hne
  refine hsorted.eq_of_mem_iff (List.pairwise_lt_range.filter _) fun i => ?_
  rw [List.mem_map, List.mem_filter, List.mem_range, List.any_eq_true]
  constructor
  · rintro ⟨r, hr, rfl⟩
    obtain ⟨now, rule, he⟩ := h.mem_reports.1 hr
    have hfinished : (⟨ticket, .sweep now rule⟩ : Post) ∈ (x.log r.workerId).finished :=
      Log.mem_finished.2 ⟨r, he⟩
    exact ⟨(h.ticketed.owner _ (h.sent_of_finished he)).1, _, hfinished, beq_self_eq_true _⟩
  · rintro ⟨-, a, ha, hticket⟩
    obtain rfl : a.ticket = ticket := beq_iff_eq.1 hticket
    obtain ⟨result, he⟩ := Log.mem_finished.1 ha
    obtain ⟨now, rule, htask⟩ := hswept.sweeps _ (h.sent_of_finished he) rfl
    obtain ⟨t, task⟩ := a
    obtain rfl : task = .sweep now rule := htask
    obtain ⟨_, _, hlabours⟩ := h.exists_labours i
    have hworker := hlabours.workerId_of_mem he
    exact ⟨result, h.mem_reports.2 ⟨now, rule, hworker.symm ▸ he⟩, hworker⟩

end InOrder

/-! ## The run without the deaths -/

/-- Nobody dies in the second crew. A worker that is dead in the first one still waits there for the
answer that never came, and everything else is the same. -/
structure Mirrors (x y : Crew σ) : Prop where
  sent : y.sent = x.sent
  server : y.server = x.server
  size : y.pool.numWorkers = x.pool.numWorkers
  log : ∀ i, y.log i = x.log i
  unhurt : ∀ i, y.deaths i = []
  desk : ∀ i, x.pool.workers[i]? ≠ some none → y.desk i = x.desk i

namespace Mirrors

variable {y : Crew σ}

theorem post (h : Mirrors x y) (i : Nat) (a : Post) : Mirrors (x.post i a) (y.post i a) := by
  refine ⟨?_, h.server, h.size, h.log, h.unhurt, fun j hj => ?_⟩
  · simp only [Crew.post, h.sent]
  · by_cases hij : i = j
    · subst hij
      rw [desk_post_self, desk_post_self, h.desk i hj]
    · rw [desk_post_of_ne _ hij, desk_post_of_ne _ hij, h.desk j hj]

theorem supply {p : Progress} {queue : List Post} {s : σ} (h : Mirrors x y)
    (hagree : ∀ c s answer s', hs.respond c s = (some answer, s') →
      hs'.respond c s = (some answer, s'))
    (hdesk : y.desk i = x.desk i) (hsupply : Supply hs x i ticket p queue s) :
    Supply hs' y i ticket p queue s := by
  have hqueue : y.queue i = x.queue i := congrArg Desk.queue hdesk
  cases hsupply with
  | queued hfirst => exact h.server ▸ .queued (hqueue.trans hfirst)
  | answered hanswer =>
      rw [← hqueue]
      exact .answered (hagree _ _ _ _ (h.server ▸ hanswer))
  | finished =>
      rw [← hqueue, ← h.server]
      exact .finished

theorem advance {w w' : Worker} {p : Progress} {u : Option Underway} {queue : List Post} {s : σ}
    (h : Mirrors x y) (hworker : x.pool.workers[i]? = some (some w)) :
    Mirrors (x.advance i ticket p w' u queue s) (y.advance i ticket p w' u queue s) := by
  have hlt := lt_of_getElem? hworker
  have hdesk : y.desk i = x.desk i := h.desk i (by rw [hworker]; nofun)
  refine ⟨h.sent, rfl, ?_, fun j => ?_, fun j => ?_, fun j hj => ?_⟩
  · exact (numWorkers_setWorker ..).trans (h.size.trans (numWorkers_setWorker ..).symm)
  · rw [Crew.log, Crew.log, Crew.advance, Crew.advance, List.filterMap_append,
      List.filterMap_append]
    exact congrArg (· ++ _) (h.log j)
  · rw [deaths, Crew.advance, List.filterMap_append]
    exact List.append_eq_nil_iff.2 ⟨h.unhurt j, rfl⟩
  · by_cases hij : i = j
    · subst hij
      rw [desk_advance_self x hlt, desk_advance_self y (h.size ▸ hlt), hdesk]
    · have hsame := desk_advance_of_ne x hij ticket p w' u queue s
      rw [desk_advance_of_ne y hij, hsame]
      exact h.desk j fun hdead => hj ((congrArg Desk.worker hsame).trans hdead)

theorem die {w : Worker} (h : Mirrors x y) (hworker : x.pool.workers[i]? = some (some w)) (c : Call)
    (s : σ) : Mirrors (x.die i ticket c s) { y with server := s } := by
  refine ⟨h.sent, rfl, h.size.trans (numWorkers_setWorker ..).symm, fun j => ?_, h.unhurt,
    fun j hj => ?_⟩
  · refine (h.log j).trans ?_
    rw [Crew.log, Crew.log, Crew.die, List.filterMap_append]
    exact (List.append_nil _).symm
  · by_cases hij : i = j
    · subst hij
      exact absurd (congrArg Desk.worker (desk_die_self x (lt_of_getElem? hworker) ticket c s)) hj
    · have hsame := desk_die_of_ne x hij ticket c s
      rw [hsame]
      exact h.desk j fun hdead => hj ((congrArg Desk.worker hsame).trans hdead)

theorem step (hagree : ∀ c s answer s', hs.respond c s = (some answer, s') →
      hs'.respond c s = (some answer, s')) (h : Mirrors x y) (hstep : Step hs settings x x') :
    ∃ y', Step hs' settings y y' ∧ Mirrors x' y' := by
  have halive {i : Nat} {w : Worker} (hworker : x.pool.workers[i]? = some (some w)) :
      y.desk i = x.desk i := h.desk i (by rw [hworker]; nofun)
  cases hstep with
  | @request ticket now job hfresh =>
      have howner : y.pool.workerIndex job.room = x.pool.workerIndex job.room := by
        rw [workerIndex, workerIndex, h.size]
      have hstep : Step hs' settings y (y.post _ ⟨ticket, .request now job⟩) :=
        .request (h.sent ▸ hfresh)
      rw [howner] at hstep
      exact ⟨_, hstep, h.post ..⟩
  | @share ticket k now rule haddressed hrule hk =>
      have haddressed' : y.addressed ticket = List.range k := by
        rw [addressed, h.sent]
        exact haddressed
      exact ⟨_, .share haddressed' (h.sent ▸ hrule) (h.size ▸ hk), h.post ..⟩
  | @labour i ticket w w' u u' p queue s hworker hunderway hproceeds hsupply =>
      have hdesk := halive hworker
      exact ⟨_, .labour ((congrArg Desk.worker hdesk).trans hworker)
        ((congrArg Desk.underway hdesk).trans hunderway) hproceeds (h.supply hagree hdesk hsupply),
        h.advance hworker⟩
  | @die i ticket w task c next s hworker hunderway hdeath =>
      -- Nobody dies, so the homeserver has to come to its new state by itself.
      exact ⟨_, .change s, h.die hworker c s⟩
  | change s => exact ⟨_, .change s, h.sent, rfl, h.size, h.log, h.unhurt, h.desk⟩

end Mirrors

theorem Reachable.exists_mirror (hagree : ∀ c s answer s', hs.respond c s = (some answer, s') →
      hs'.respond c s = (some answer, s')) (hx : Reachable hs settings numWorkers x) :
    ∃ y, Reachable hs' settings numWorkers y ∧ Mirrors x y := by
  obtain ⟨s, hrun⟩ := hx
  induction hrun with
  | refl => exact ⟨_, ⟨s, .refl⟩, rfl, rfl, rfl, fun _ => rfl, fun _ => rfl, fun _ _ => rfl⟩
  | tail _ hstep ih =>
      obtain ⟨y, ⟨s', hrun⟩, hmirrors⟩ := ih
      obtain ⟨y', hstep', hmirrors'⟩ := hmirrors.step hagree hstep
      exact ⟨y', ⟨s', hrun.tail hstep'⟩, hmirrors'⟩

theorem deaths_of_run {y : Crew σ} (hback : hs.ComesBack) (hrun : Run hs settings x y) (i : Nat) :
    y.deaths i = x.deaths i := by
  induction hrun with
  | refl => rfl
  | tail _ hstep ih =>
      refine Eq.trans ?_ ih
      cases hstep with
      | request | share | change => rfl
      | labour =>
          rw [deaths, deaths, advance, List.filterMap_append]
          exact List.append_nil _
      | @die j ticket w task c next s hworker hunderway hdeath =>
          obtain ⟨answer, s', hanswer⟩ := hback c _
          cases hdeath.symm.trans hanswer

theorem log_prefix_of_run {y : Crew σ} (hrun : Run hs settings x y) (i : Nat) :
    x.log i <+: y.log i := by
  induction hrun with
  | refl => exact List.prefix_refl _
  | tail _ hstep ih =>
      refine ih.trans ?_
      rcases hstep.log_eq_or_proceeds i with hsame | ⟨_, _, _, _, _, _, -, -, -, hlog, -⟩
      · exact hsame ▸ List.prefix_refl _
      · exact hlog ▸ List.prefix_append ..

/-! ## Containment -/

/-- A worker died of one task. Of what else it was sent and did not finish it did nothing, whoever
asked for that hears so, and the worker does nothing any more. -/
structure Contained (hs : Homeserver σ) (settings : RoomSettings) (x : Crew σ) (i : Nat) :
    Prop where
  untouched : ∃ fatal, x.deaths i = [fatal] ∧ ∀ a, (i, a) ∈ x.sent →
    (∀ result, (a.ticket, .finished a.task result) ∉ x.log i) → a.ticket ≠ fatal →
    ∀ p, (a.ticket, p) ∉ x.log i
  refused : ∀ ticket now job, (i, ⟨ticket, .request now job⟩) ∈ x.sent →
    (∀ result, (ticket, .finished (.request now job) result) ∉ x.log i) →
    ∀ result, x.Hears ticket job result ↔ result = .error .workerUnavailable
  stays : ∀ y, Run hs settings x y → y.pool.workers[i]? = some none ∧ y.log i = x.log i

/-- Whatever is replied in one crew to a request to a worker is replied in the other one. -/
def RepliesLike (x : Crew σ) (y : Crew τ) (i : Nat) : Prop :=
  ∀ ticket now job result, (i, ⟨ticket, .request now job⟩) ∈ x.sent → x.Hears ticket job result →
    (y.AtRest i → y.Hears ticket job result) ∧
      ∀ result', y.Hears ticket job result' → result' = result

theorem InOrder.contained (h : x.InOrder settings) (hdead : x.pool.workers[i]? = some none) :
    x.Contained hs settings i := by
  obtain ⟨w, u, lost, hlabours, -, -, -, hdeaths⟩ := (h.sound i).lost hdead
  refine ⟨⟨u.1, hdeaths, fun a hsent hnever hfatal => ?_⟩, ?_, fun y hrun => dead_of_run hrun hdead⟩
  · exact h.notMem_log_of_dead hlabours hsent hnever hfatal
  · exact fun ticket now job hsent hnever result => h.hears_iff_of_dead hdead hsent hnever

theorem InOrder.repliesLike {y : Crew τ} (h : x.InOrder settings) (h' : y.InOrder settings)
    (halive : x.alive i = true) (halive' : y.alive i = true) (hposts : y.posts i = x.posts i)
    (hanswers : SameAnswers (x.log i).answers (y.log i).answers) : x.RepliesLike y i := by
  intro ticket now job result hsent hears
  have hsame (result' : Except RoomError job.Reply) (hears' : y.Hears ticket job result') :
      result' = result := h.eq_of_sameAnswers h' halive halive' hposts hanswers hsent hears hears'
  refine ⟨fun hrest => ?_, hsame⟩
  have hsent' : (i, ⟨ticket, .request now job⟩) ∈ y.sent :=
    mem_posts.1 (hposts ▸ mem_posts.2 hsent)
  obtain ⟨result', hears'⟩ := h'.exists_hears_of_atRest halive' hsent' hrest
  exact hsame result' hears' ▸ hears'

/-- A run can be gone through once more with nobody dying, and all workers come to rest. -/
theorem Reachable.exists_unhurt (hx : Reachable hs settings numWorkers x) (hback : hs'.ComesBack)
    (hagree : ∀ c s answer s', hs.respond c s = (some answer, s') →
      hs'.respond c s = (some answer, s')) :
    ∃ y, Reachable hs' settings numWorkers y ∧ y.sent = x.sent ∧
      (∀ i, y.deaths i = [] ∧ y.AtRest i) ∧ ∀ i, x.alive i = true → x.RepliesLike y i := by
  -- The run without the deaths comes first, and then all that the dead have left undone.
  obtain ⟨y, hy, hmirrors⟩ := hx.exists_mirror hagree
  obtain ⟨z, hrun, hsent, hrest⟩ := hy.inOrder.exists_settled hs'
  have hz : Reachable hs' settings numWorkers z := hy.imp fun s hs => hs.trans hrun
  have hdeaths (i : Nat) : z.deaths i = [] :=
    (deaths_of_run hback hrun i).trans (hmirrors.unhurt i)
  refine ⟨z, hz, hsent.trans hmirrors.sent, fun i => ⟨hdeaths i, hrest i⟩, fun i halive => ?_⟩
  intro ticket now job result hposted hears
  have he := hx.inOrder.finished_of_hears halive hposted hears
  have hlog : x.log i <+: z.log i := hmirrors.log i ▸ log_prefix_of_run hrun i
  have hears' : z.Hears ticket job result := .replied (hlog.subset he)
  exact ⟨fun _ => hears', fun result' hother => hz.inOrder.hears_unique hother hears'⟩

/-- A dead worker is contained. A worker that lives replies as in any run in which it lives, is sent
the same tasks and is given the same answers, and there is such a run in which nobody dies. The
reports on a sweep are those of the workers that got through it, each one's own, in their order. At
any time all that is awaited can come to its end. -/
theorem deaths_contained (hx : Reachable hs settings numWorkers x) :
    (∀ i, x.pool.workers[i]? = some none → x.Contained hs settings i) ∧
    (∀ (τ : Type) (hs' : Homeserver τ) n (y : Crew τ), Reachable hs' settings n y →
      ∀ i, x.alive i = true → y.alive i = true → y.posts i = x.posts i →
        SameAnswers (x.log i).answers (y.log i).answers → x.RepliesLike y i) ∧
    (∀ hs' : Homeserver σ, hs'.ComesBack →
      (∀ c s answer s', hs.respond c s = (some answer, s') → hs'.respond c s = (some answer, s')) →
      ∃ y, Reachable hs' settings numWorkers y ∧ y.sent = x.sent ∧
        (∀ i, y.deaths i = [] ∧ y.AtRest i) ∧ ∀ i, x.alive i = true → x.RepliesLike y i) ∧
    (∀ ticket, x.Swept ticket →
      ((x.reports ticket).map (·.workerId) = (List.range x.pool.numWorkers).filter fun i =>
        (x.log i).finished.any (·.ticket == ticket)) ∧
      ∀ r ∈ x.reports ticket, ∃ now rule,
        (ticket, .finished (.sweep now rule) r) ∈ x.log r.workerId) ∧
    ∃ y, Run hs settings x y ∧ y.sent = x.sent ∧ ∀ ticket, ¬ y.Awaits ticket := by
  have h := hx.inOrder
  refine ⟨fun i hdead => h.contained hdead, ?_, ?_, fun ticket hswept => ⟨?_, ?_⟩, ?_⟩
  · intro τ hs' n y hy i halive halive' hposts hanswers
    exact h.repliesLike hy.inOrder halive halive' hposts hanswers
  · exact fun hs' hback hagree => hx.exists_unhurt hback hagree
  · exact h.map_workerId_reports hswept
  · exact fun r hr => h.mem_reports.1 hr
  · obtain ⟨y, hrun, hsent, hrest⟩ := h.exists_settled hs
    exact ⟨y, hrun, hsent, fun _ => not_awaits_of_forall_atRest hrest⟩

end Crew

/-! The first call never comes back. It was made for the small room, for which there is one more
request, while the worker of the other room loads it and does its share of a sweep. -/

namespace SmallRoom

open Crew

def firstHangs : Homeserver Bool :=
  ⟨fun c s => if s then (some (twoRooms.answer c), true) else (none, true)⟩

def steady : Homeserver Bool := ⟨fun c _ => (some (twoRooms.answer c), true)⟩

def crowd : Job := .members room 0 10

def manned : Crew Bool :=
  ((((Crew.idle (.ofSize 2) false).ask 0 1 (.initialSync room)).ask 1 2 (.initialSync other)).ask
    2 3 crowd).shares 3 4 shortRule 2

def wrecked : Crew Bool := manned.turns firstHangs settings [0, 0, 1, 1, 1, 1, 1, 1]

theorem reachable_wrecked : Crew.Reachable firstHangs settings 2 wrecked :=
  ⟨false, ((((run_ask firstHangs settings (by decide +kernel) 1 _).trans
    (run_ask firstHangs settings (by decide +kernel) 2 _)).trans
    (run_ask firstHangs settings (by decide +kernel) 3 crowd)).trans
    (run_shares firstHangs settings (by decide +kernel) 4 shortRule (by decide +kernel))).trans
    (run_turns ..)⟩

theorem wreck_contained :
    wrecked.Hears 0 (.initialSync room) (.error .workerUnavailable) ∧
    wrecked.Hears 2 crowd (.error .workerUnavailable) ∧ (∀ p, (2, p) ∉ wrecked.log 0) ∧
    (wrecked.reports 3).map (·.workerId) = [1] ∧
    ∃ y, Crew.Reachable steady settings 2 y ∧ y.sent = wrecked.sent ∧ (∀ i, y.deaths i = []) ∧
      y.Hears 1 (.initialSync other) (.ok ()) := by
  obtain ⟨hcontained, -, hunhurt, hreports, -⟩ := deaths_contained reachable_wrecked
  have hsent : wrecked.sent = [(0, ⟨0, .request 1 (.initialSync room)⟩),
      (1, ⟨1, .request 2 (.initialSync other)⟩), (0, ⟨2, .request 3 crowd⟩),
      (0, ⟨3, .sweep 4 shortRule⟩), (1, ⟨3, .sweep 4 shortRule⟩)] := by
    cbv
  have hevents : (wrecked.deaths 0, (wrecked.log 0).finished, (wrecked.log 1).finished,
      (wrecked.log 1)[2]?) =
      ([0], [], [⟨1, .request 2 (.initialSync other)⟩, ⟨3, .sweep 4 shortRule⟩],
        some (1, .finished (.request 2 (.initialSync other)) (.ok ()))) := by
    cbv
  simp only [Prod.mk.injEq] at hevents
  obtain ⟨hdeaths, hnone, hboth, hloaded⟩ := hevents
  have hdead : wrecked.pool.workers[0]? = some none := by
    have hgone : wrecked.pool.workers[0]?.map Option.isNone = some true := by cbv
    obtain ⟨w, hw, hnone⟩ := Option.map_eq_some_iff.1 hgone
    rw [hw, Option.isNone_iff_eq_none.1 hnone]
  have hsize : wrecked.pool.numWorkers = 2 := by cbv
  have hnever (ticket : Nat) (task : Task) (result : task.Result) :
      (ticket, .finished task result) ∉ wrecked.log 0 := by
    intro he
    have hfinished : (⟨ticket, task⟩ : Post) ∈ (wrecked.log 0).finished :=
      Log.mem_finished.2 ⟨result, he⟩
    rw [hnone] at hfinished
    cases hfinished
  obtain ⟨⟨fatal, hfatal, huntouched⟩, hrefused, -⟩ := hcontained 0 hdead
  obtain rfl : 0 = fatal := List.singleton_inj.1 (hdeaths.symm.trans hfatal)
  have hrest : ((wrecked.queue 0).isEmpty && (wrecked.underway 0).isNone &&
      (wrecked.queue 1).isEmpty && (wrecked.underway 1).isNone) = true := by
    cbv
  simp only [Bool.and_eq_true, List.isEmpty_iff, Option.isNone_iff_eq_none] at hrest
  obtain ⟨⟨⟨hqueue, hunderway⟩, hqueue'⟩, hunderway'⟩ := hrest
  have hswept : wrecked.Swept 3 := by
    refine ⟨by rw [addressed, hsent]; decide +kernel, ?_, fun hawaits => ?_⟩
    · rw [hsent]
      simp
    · obtain ⟨i, a, ha, -, hbusy⟩ := reachable_wrecked.inOrder.exists_sent_of_awaits hawaits
      have hi : i < wrecked.pool.numWorkers := (reachable_wrecked.inOrder.ticketed.owner _ ha).1
      rw [hsize] at hi
      obtain rfl | rfl : i = 0 ∨ i = 1 := by omega
      · exact hbusy ⟨hqueue, hunderway⟩
      · exact hbusy ⟨hqueue', hunderway'⟩
  have hback : steady.ComesBack := fun c s => ⟨_, _, rfl⟩
  have hagree (c : Call) (s : Bool) (answer : Except ApiError c.Reply) (s' : Bool)
      (h : firstHangs.respond c s = (some answer, s')) :
      steady.respond c s = (some answer, s') := by
    cases s with
    | false => cases h
    | true => exact h
  obtain ⟨y, hy, hsame, hwell, hreplies⟩ := hunhurt steady hback hagree
  have hheard : wrecked.Hears 1 (.initialSync other) (.ok ()) :=
    .replied (List.mem_of_getElem? hloaded)
  refine ⟨?_, ?_, ?_, ?_, y, hy, hsame, fun i => (hwell i).1, ?_⟩
  · exact (hrefused 0 1 _ (by rw [hsent]; simp) (hnever _ _) _).2 rfl
  · exact (hrefused 2 3 crowd (by rw [hsent]; simp) (hnever _ _) _).2 rfl
  · exact huntouched ⟨2, .request 3 crowd⟩ (by rw [hsent]; simp) (hnever _ _) (by decide)
  · rw [(hreports 3 hswept).1]
    rw [hsize, List.range_succ, List.range_one]
    simp [hnone, hboth]
  · exact (hreplies 1 (by decide +kernel) 1 2 _ _ (by rw [hsent]; simp) hheard).1 (hwell 1).2

end SmallRoom

end RoomReader
