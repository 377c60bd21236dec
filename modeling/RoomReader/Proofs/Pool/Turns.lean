import RoomReader.Proofs.Exchange
import RoomReader.Proofs.Pool.Schedule

namespace RoomReader.Pool

/-!
# One task after another

A request that is sent to an idle pool and waited for, and a sweep of an idle pool, are runs of the
pool at work.
-/

variable {σ : Type} {hs : Homeserver σ} {settings : RoomSettings} {p p' : Pool} {s s' : σ}
  {i : Nat} {w w' : Worker} {now : Time} {history : List Entry}

/-- A task that is underway can be brought to its end. -/
theorem run_answers {task : Task} {e : Exchange (task.Result × Worker)} {result : task.Result}
    (hrun : e.run hs s = (some (result, w), s')) (queue : Nat → List Task)
    (underway : Nat → Option Underway) (history : List Entry) :
    ∃ answers : List Answered,
      Run hs settings ⟨p, queue, Function.update underway i (some ⟨task, e⟩), s, history⟩
        ⟨p, queue, Function.update underway i (some ⟨task, .done (result, w)⟩), s',
          history ++ answers.map fun a => ⟨i, .answered a⟩⟩ := by
  induction e generalizing s history with
  | done q =>
      cases hrun
      refine ⟨[], ?_⟩
      rw [List.map_nil, List.append_nil]
  | ask c next ih =>
      obtain ⟨answer, s₁, hanswer, hnext⟩ := Exchange.run_ask_eq_some.1 hrun
      obtain ⟨answers, hanswers⟩ := ih answer hnext (history ++ [⟨i, .answered ⟨c, answer⟩⟩])
      have hunderway : Function.update underway i (some ⟨task, .ask c next⟩) i =
          some ⟨task, .ask c next⟩ := Function.update_self ..
      have hstep : Step hs settings
          ⟨p, queue, Function.update underway i (some ⟨task, .ask c next⟩), s, history⟩ _ :=
        .answer hunderway hanswer
      rw [Config.answer, Function.update_idem] at hstep
      rw [List.append_assoc] at hanswers
      exact ⟨⟨c, answer⟩ :: answers, .head hstep hanswers⟩

def turn (i : Nat) (task : Task) (evicted : List String) (answers : List Answered)
    (result : task.Result) : List Entry :=
  ⟨i, .began task evicted⟩ :: (answers.map fun a => ⟨i, .answered a⟩) ++
    [⟨i, .finished task result⟩]

theorem run_task {task : Task} {result : task.Result} (hi : p.workers[i]? = some (some w))
    (htask : task.IsFor p i) (hrun : (perform settings i w task).run hs s = (some (result, w'), s'))
    (history : List Entry) :
    ∃ answers : List Answered,
      Run hs settings (.idle p s history) (.idle (p.setWorker i (some w')) s'
        (history ++ turn i task (task.evicted w) answers result)) := by
  let x := (Config.idle p s history).send i task
  have hsend : Step hs settings (.idle p s history) x := .send htask
  have hbegin : Step hs settings x (x.begin settings i w task []) :=
    .begin hi rfl (Function.update_self ..)
  obtain ⟨answers, hanswers⟩ := run_answers hrun (x.begin settings i w task []).queue
    x.underway (x.begin settings i w task []).history
  refine ⟨answers, .head hsend (.head hbegin (hanswers.tail ?_))⟩
  have hfinish : Step hs settings ⟨p, (x.begin settings i w task []).queue,
      Function.update x.underway i (some ⟨task, .done (result, w')⟩), s',
      (x.begin settings i w task []).history ++ answers.map fun a => ⟨i, .answered a⟩⟩ _ :=
    .finish (List.getElem?_eq_some_iff.1 hi).1 (Function.update_self ..)
  simpa [x, turn, Config.begin, Config.send, Config.finish, Config.idle, Function.update_idem,
    Function.update_eq_self] using hfinish

/-- A request that is replied to is a run. -/
theorem run_request {job : Job} {result : Except RoomError job.Reply}
    (h : p.dispatch hs settings now job.room job s = (.replied result, p', s'))
    (history : List Entry) :
    ∃ answers : List Answered,
      Run hs settings (.idle p s history) (.idle p' s'
        (history ++ turn (p.workerIndex job.room) (.request now job) [] answers result)) := by
  have hfor : (Task.request now job).IsFor p (p.workerIndex job.room) := Task.isFor_request rfl
  unfold dispatch at h
  cases hw : p.workers[p.workerIndex job.room]? with
  | none => simp [hw] at h
  | some w =>
      cases w with
      | none => simp [hw] at h
      | some w =>
          simp only [hw, Option.join_some] at h
          split at h
          · cases h
            exact run_task hw hfor ‹_› history
          · cases h

theorem run_sweepFrom {rule : SweepRule} {workers workers' : List (Option Worker)}
    {reports : List SweepReport}
    (h : sweepFrom hs rule now i workers s = (reports, workers', s')) (halive : none ∉ workers')
    (before : List (Option Worker)) (hi : before.length = i) (history : List Entry) :
    ∃ later, Run hs settings (.idle ⟨before ++ workers⟩ s history)
      (.idle ⟨before ++ workers'⟩ s' (history ++ later)) := by
  induction workers generalizing i s reports workers' before history with
  | nil =>
      cases h
      refine ⟨[], ?_⟩
      rw [List.append_nil history]
  | cons first rest ih =>
      cases first with
      | none =>
          cases h
          exact absurd List.mem_cons_self halive
      | some w =>
          simp only [sweepFrom] at h
          split at h
          · rename_i report w₁ s₁ hsweep
            generalize hrest : sweepFrom hs rule now (i + 1) rest s₁ = swept at h
            obtain ⟨reports₁, rest₁, s₂⟩ := swept
            cases h
            have hget : (⟨before ++ some w :: rest⟩ : Pool).workers[i]? = some (some w) := by
              simp [← hi]
            have hset : (⟨before ++ some w :: rest⟩ : Pool).setWorker i (some w₁) =
                ⟨(before ++ [some w₁]) ++ rest⟩ := by
              simp [setWorker, ← hi]
            have hperform : (perform settings i w (.sweep now rule)).run hs s =
                (some (report, w₁), s₁) := hsweep
            obtain ⟨answers, hfirst⟩ := run_task hget Task.isFor_sweep hperform history
            rw [hset] at hfirst
            have halive₁ : none ∉ rest₁ := fun hnone => halive (List.mem_cons_of_mem _ hnone)
            have hi₁ : (before ++ [some w₁]).length = i + 1 := by simp [hi]
            obtain ⟨later, hlater⟩ := ih hrest halive₁ _ hi₁
              (history ++ turn i (.sweep now rule) (Task.evicted w _) answers report)
            have hpool : before ++ some w₁ :: rest₁ = (before ++ [some w₁]) ++ rest₁ := by simp
            rw [List.append_assoc history] at hlater
            exact ⟨_, hfirst.trans (hpool ▸ hlater)⟩
          · cases h
            exact absurd List.mem_cons_self halive

/-- A sweep that no worker dies of is a run. -/
theorem run_sweep {rule : SweepRule} {reports : List SweepReport}
    (h : p.sweep hs rule now s = (reports, p', s')) (halive : none ∉ p'.workers)
    (history : List Entry) :
    ∃ later, Run hs settings (.idle p s history) (.idle p' s' (history ++ later)) := by
  unfold sweep at h
  generalize hfrom : sweepFrom hs rule now 0 p.workers s = swept at h
  obtain ⟨reports₁, workers, s₁⟩ := swept
  cases h
  exact run_sweepFrom hfrom halive [] rfl history

end RoomReader.Pool
