import RoomReader.Proofs.Pool.Hearing

namespace RoomReader

open Pool

/-!
# Coming to rest

Every task ends: it is finished, or the worker dies of a call. So the workers can come to rest at
any time. A request and a sweep as the pool does them, with nothing in between, are runs of a crew.
-/

namespace Crew

variable {σ : Type} {hs : Homeserver σ} {settings : RoomSettings} {numWorkers : Nat} {x y : Crew σ}
  {i j ticket : Nat} {w : Worker} {task : Task} {rest : Exchange (task.Result × Worker)}

def conclude (x : Crew σ) (i ticket : Nat) (answers : List Answered) (last : Note)
    (w : Option Worker) (queue : List Post) (s : σ) : Crew σ :=
  { x with
    pool := x.pool.setWorker i w
    queue := Function.update x.queue i queue
    underway := Function.update x.underway i none
    server := s
    history := x.history ++ answers.map (fun a => .progress i ticket (.answered a)) ++ [last] }

theorem conclude_advance (a : Answered) (answers : List Answered) (last : Note) (w' : Option Worker)
    (u : Option Underway) (queue : List Post) (s s' : σ) :
    (x.advance i ticket (.answered a) w u (x.queue i) s).conclude i ticket answers last w' queue
        s' =
      x.conclude i ticket (a :: answers) last w' queue s' := by
  simp [conclude, advance, setWorker]

inductive Concludes (hs : Homeserver σ) (x : Crew σ) (i ticket : Nat) (task : Task)
    (rest : Exchange (task.Result × Worker)) : Crew σ → Prop
  | finished {answers : List Answered} {result : task.Result} {w : Worker} {s : σ}
      (hrun : rest.run hs x.server = (some (result, w), s)) :
      Concludes hs x i ticket task rest
        (x.conclude i ticket answers (.progress i ticket (.finished task result)) (some w)
          (x.queue i) s)
  | died {answers : List Answered} {c : Call} {s : σ} (hrun : rest.run hs x.server = (none, s)) :
      Concludes hs x i ticket task rest
        (x.conclude i ticket answers (.death i ticket c) none [] s)

/-- A task that is underway comes to its end, since an exchange makes no more than so many calls. -/
theorem exists_run_concludes (hs : Homeserver σ) (settings : RoomSettings)
    (hworker : x.pool.workers[i]? = some (some w))
    (hunderway : x.underway i = some (ticket, ⟨task, rest⟩)) :
    ∃ y, Run hs settings x y ∧ x.Concludes hs i ticket task rest y := by
  induction rest generalizing x with
  | done p =>
      obtain ⟨result, w'⟩ := p
      have hstep : Step hs settings x
          (x.advance i ticket (.finished task result) w' none (x.queue i) x.server) :=
        .labour (u := some ⟨task, .done (result, w')⟩) hworker hunderway
          (.finished w task result w') .finished
      have hconclude : x.advance i ticket (.finished task result) w' none (x.queue i) x.server =
          x.conclude i ticket [] (.progress i ticket (.finished task result)) (some w') (x.queue i)
            x.server := by
        simp [advance, conclude]
      exact ⟨_, .single hstep, hconclude ▸ .finished rfl⟩
  | ask c next ih =>
      cases hanswer : hs.respond c x.server with
      | mk answer s =>
          cases answer with
          | none =>
              have hconclude : x.die i ticket c s =
                  x.conclude i ticket [] (.death i ticket c) none [] s := by
                simp [die, conclude]
              refine ⟨_, .single (.die hworker hunderway hanswer), hconclude ▸ .died ?_⟩
              simp [Exchange.run, hanswer]
          | some answer =>
              have hstep : Step hs settings x
                  (x.advance i ticket (.answered ⟨c, answer⟩) w (some ⟨task, next answer⟩)
                    (x.queue i) s) :=
                .labour (u := some ⟨task, .ask c next⟩) hworker hunderway
                  (.answered w task c next answer) (.answered hanswer)
              have hdesk := desk_advance_self x (lt_of_getElem? hworker) ticket
                (.answered ⟨c, answer⟩) w (some ⟨task, next answer⟩) (x.queue i) s
              obtain ⟨y, hrun, hconcludes⟩ :=
                ih answer (congrArg Desk.worker hdesk) (congrArg Desk.underway hdesk)
              refine ⟨y, .head hstep hrun, ?_⟩
              have hask : (Exchange.ask c next).run hs x.server = (next answer).run hs s :=
                Exchange.run_ask_of_respond hanswer
              have hqueue : (x.advance i ticket (.answered ⟨c, answer⟩) w (some ⟨task, next answer⟩)
                  (x.queue i) s).queue i = x.queue i := Function.update_self ..
              cases hconcludes with
              | finished hend =>
                  rw [conclude_advance, hqueue]
                  exact .finished (hask.trans hend)
              | died hend =>
                  rw [conclude_advance]
                  exact .died (hask.trans hend)

namespace Concludes

theorem sent (h : x.Concludes hs i ticket task rest y) : y.sent = x.sent := by
  cases h <;> rfl

theorem underway (h : x.Concludes hs i ticket task rest y) : y.underway i = none := by
  cases h <;> exact Function.update_self ..

theorem queue (h : x.Concludes hs i ticket task rest y) :
    y.queue i = x.queue i ∨ y.queue i = [] := by
  cases h with
  | finished => exact .inl (Function.update_self ..)
  | died => exact .inr (Function.update_self ..)

theorem desk (h : x.Concludes hs i ticket task rest y) (hij : i ≠ j) : y.desk j = x.desk j := by
  have hget (w : Option Worker) : (x.pool.setWorker i w).workers[j]? = x.pool.workers[j]? :=
    List.getElem?_set_ne hij
  cases h <;> simp [Crew.desk, conclude, posts, log, deaths, Note.progress?, Note.death?, hget, hij,
    Function.update_of_ne (Ne.symm hij), List.filterMap_map, Function.comp_def]

end Concludes

def take (settings : RoomSettings) (x : Crew σ) (i : Nat) (w : Worker) (a : Post)
    (later : List Post) : Crew σ :=
  x.advance i a.ticket (.began a.task (a.task.evicted w)) w
    (some ⟨a.task, perform settings i w a.task⟩) later x.server

theorem exists_run_take (hs : Homeserver σ) (settings : RoomSettings) {a : Post} {later : List Post}
    (hworker : x.pool.workers[i]? = some (some w)) (hidle : x.underway i = none)
    (hqueue : x.queue i = a :: later) :
    ∃ y, Run hs settings x y ∧ (x.take settings i w a later).Concludes hs i a.ticket a.task
      (perform settings i w a.task) y := by
  have hstep : Step hs settings x (x.take settings i w a later) :=
    .labour (u := none) hworker hidle (.began w a.task) (.queued hqueue)
  have hdesk := desk_advance_self x (lt_of_getElem? hworker) a.ticket
    (.began a.task (a.task.evicted w)) w (some ⟨a.task, perform settings i w a.task⟩) later x.server
  obtain ⟨y, hrun, hconcludes⟩ := exists_run_concludes hs settings
    (x := x.take settings i w a later) (congrArg Desk.worker hdesk) (congrArg Desk.underway hdesk)
  exact ⟨y, .head hstep hrun, hconcludes⟩

theorem InOrder.exists_rest_of_idle (hs : Homeserver σ) (h : x.InOrder settings)
    (hidle : x.underway i = none) :
    ∃ y, Run hs settings x y ∧ y.sent = x.sent ∧ (∀ j, i ≠ j → y.desk j = x.desk j) ∧
      y.AtRest i := by
  induction hqueue : x.queue i generalizing x with
  | nil => exact ⟨x, .refl, rfl, fun _ _ => rfl, hqueue, hidle⟩
  | cons a later ih =>
      obtain ⟨w, hw⟩ : ∃ w, x.pool.workers[i]? = some (some w) := by
        rcases (h.sound i).rests_or_alive with ⟨hempty, -⟩ | halive
        · cases hqueue.symm.trans hempty
        · exact halive
      obtain ⟨y, hrun, hend⟩ := exists_run_take hs settings hw hidle hqueue
      have hothers (j : Nat) (hij : i ≠ j) : y.desk j = x.desk j :=
        (hend.desk hij).trans (desk_advance_of_ne x hij ..)
      have hlater : (x.take settings i w a later).queue i = later := Function.update_self ..
      -- A death empties the queue at once.
      rcases hend.queue with hsame | hempty
      · obtain ⟨z, hrest, hsent, hdesk, hz⟩ := ih (h.run hrun) hend.underway (hsame.trans hlater)
        exact ⟨z, hrun.trans hrest, hsent.trans hend.sent,
          fun j hij => (hdesk j hij).trans (hothers j hij), hz⟩
      · exact ⟨y, hrun, hend.sent, hothers, hempty, hend.underway⟩

theorem InOrder.exists_rest (hs : Homeserver σ) (h : x.InOrder settings) (i : Nat) :
    ∃ y, Run hs settings x y ∧ y.sent = x.sent ∧ (∀ j, i ≠ j → y.desk j = x.desk j) ∧
      y.AtRest i := by
  cases hunderway : x.underway i with
  | none => exact h.exists_rest_of_idle hs hunderway
  | some v =>
      obtain ⟨w, hw⟩ : ∃ w, x.pool.workers[i]? = some (some w) := by
        rcases (h.sound i).rests_or_alive with ⟨-, hnone⟩ | halive
        · cases hunderway.symm.trans hnone
        · exact halive
      obtain ⟨y, hrun, hend⟩ := exists_run_concludes hs settings hw hunderway
      obtain ⟨z, hrest, hsent, hdesk, hz⟩ := (h.run hrun).exists_rest_of_idle hs hend.underway
      exact ⟨z, hrun.trans hrest, hsent.trans hend.sent,
        fun j hij => (hdesk j hij).trans (hend.desk hij), hz⟩

theorem AtRest.of_desk (hdesk : y.desk i = x.desk i) (h : x.AtRest i) : y.AtRest i :=
  ⟨(congrArg Desk.queue hdesk).trans h.1, (congrArg Desk.underway hdesk).trans h.2⟩

/-- All workers can come to rest. -/
theorem InOrder.exists_settled (hs : Homeserver σ) (h : x.InOrder settings) :
    ∃ y, Run hs settings x y ∧ y.sent = x.sent ∧ ∀ i, y.AtRest i := by
  have hfirst (n : Nat) : ∃ y, Run hs settings x y ∧ y.sent = x.sent ∧ ∀ i < n, y.AtRest i := by
    induction n with
    | zero => exact ⟨x, .refl, rfl, nofun⟩
    | succ n ih =>
        obtain ⟨y, hrun, hsent, hrest⟩ := ih
        obtain ⟨z, hmore, hsame, hdesk, hn⟩ := (h.run hrun).exists_rest hs n
        refine ⟨z, hrun.trans hmore, hsame.trans hsent, fun i hi => ?_⟩
        rcases Nat.lt_succ_iff_lt_or_eq.1 hi with hlt | rfl
        · exact (hrest i hlt).of_desk (hdesk i (Nat.ne_of_gt hlt))
        · exact hn
  obtain ⟨y, hrun, hsent, hrest⟩ := hfirst x.pool.numWorkers
  refine ⟨y, hrun, hsent, fun i => ?_⟩
  by_cases hi : i < x.pool.numWorkers
  · exact hrest i hi
  · rcases ((h.run hrun).sound i).rests_or_alive with hi' | ⟨w, hw⟩
    · exact hi'
    · exact absurd (numWorkers_eq_of_run hrun ▸ lt_of_getElem? hw) hi

/-! ## One task at a time -/

/-- All that happens while a worker deals with the only task in its queue. -/
structure Single (hs : Homeserver σ) (settings : RoomSettings) (x : Crew σ) (i : Nat) (w : Worker)
    (a : Post) (y : Crew σ) : Prop where
  run : Run hs settings x y
  sent : y.sent = x.sent
  others : ∀ j, i ≠ j → y.desk j = x.desk j
  rests : y.AtRest i
  finished : ∀ result w' s,
    (perform settings i w a.task).run hs x.server = (some (result, w'), s) →
      y.pool = x.pool.setWorker i (some w') ∧ y.server = s ∧
        ∃ answers : List Answered, y.history = x.history ++
          [.progress i a.ticket (.began a.task (a.task.evicted w))] ++
          answers.map (fun c => .progress i a.ticket (.answered c)) ++
          [.progress i a.ticket (.finished a.task result)]
  died : ∀ s, (perform settings i w a.task).run hs x.server = (none, s) →
    y.pool = x.pool.setWorker i none ∧ y.server = s ∧
      ∃ (answers : List Answered) (c : Call), y.history = x.history ++
        [.progress i a.ticket (.began a.task (a.task.evicted w))] ++
        answers.map (fun c => .progress i a.ticket (.answered c)) ++ [.death i a.ticket c]

theorem exists_single (hs : Homeserver σ) (settings : RoomSettings) {a : Post}
    (hw : x.pool.workers[i]? = some (some w)) (hidle : x.underway i = none) (hqueue : x.queue i = [a]) :
    ∃ y, x.Single hs settings i w a y := by
  obtain ⟨y, hrun, hend⟩ := exists_run_take hs settings hw hidle hqueue
  have hempty : (x.take settings i w a []).queue i = [] := Function.update_self ..
  have hpool (w' : Option Worker) :
      (x.take settings i w a []).pool.setWorker i w' = x.pool.setWorker i w' :=
    congrArg Pool.mk (List.set_set ..)
  refine ⟨y, hrun, hend.sent, fun j hij => (hend.desk hij).trans (desk_advance_of_ne x hij ..),
    ⟨hend.queue.elim (·.trans hempty) id, hend.underway⟩, ?_, ?_⟩
  · intro result w' s hresult
    cases hend with
    | @finished answers _ _ _ hperform =>
        cases hperform.symm.trans hresult
        exact ⟨hpool _, rfl, answers, rfl⟩
    | died hperform => cases hperform.symm.trans hresult
  · intro s hdeath
    cases hend with
    | finished hperform => cases hperform.symm.trans hdeath
    | @died answers c _ hperform =>
        cases hperform.symm.trans hdeath
        exact ⟨hpool _, rfl, answers, c, rfl⟩

theorem InOrder.hears_of_single {now : Time} {job : Job} (h : x.InOrder settings)
    (hw : x.pool.workers[i]? = some (some w)) (hsent : (i, ⟨ticket, .request now job⟩) ∈ x.sent)
    (hnew : ∀ result, (ticket, .finished (.request now job) result) ∉ x.log i)
    (hy : x.Single hs settings i w ⟨ticket, .request now job⟩ y) :
    (∀ result w' s, (w.handle settings now job).run hs x.server = (some (result, w'), s) →
      y.Hears ticket job result) ∧
    ∀ s, (w.handle settings now job).run hs x.server = (none, s) →
      y.Hears ticket job (.error .workerUnavailable) := by
  refine ⟨fun result w' s hhandle => ?_, fun s hhandle => ?_⟩
  · obtain ⟨-, -, answers, hhistory⟩ := hy.finished result w' s hhandle
    have hlast : Note.progress i ticket (.finished (.request now job) result) ∈ y.history := by
      rw [hhistory]
      exact List.mem_append_right _ (List.mem_singleton_self _)
    exact .replied (mem_log.2 hlast)
  · obtain ⟨hpool, -, answers, c, hhistory⟩ := hy.died s hhandle
    have hdead : y.pool.workers[i]? = some none := by
      rw [hpool]
      exact List.getElem?_set_self (lt_of_getElem? hw)
    refine ((h.run hy.run).hears_iff_of_dead hdead (hy.sent ▸ hsent) fun result he => ?_).2 rfl
    have hnote := mem_log.1 he
    simp only [hhistory, List.mem_append, List.mem_map, List.mem_singleton] at hnote
    rcases hnote with ((hold | hbegan) | ⟨_, -, hanswered⟩) | hdeath
    · exact hnew result (mem_log.2 hold)
    · cases hbegan
    · cases hanswered
    · cases hdeath

/-- A request with nothing else to do is a run of the worker that owns the room. -/
theorem InOrder.exists_run_request (h : x.InOrder settings) (hrest : ∀ i, x.AtRest i)
    (hfresh : ∀ a ∈ x.sent, a.2.ticket ≠ ticket) (now : Time) (job : Job) :
    ∃ y, Run hs settings x y ∧ (∀ i, y.AtRest i) ∧
      y.pool = (x.pool.request hs settings now job x.server).2.1 ∧
      y.server = (x.pool.request hs settings now job x.server).2.2 ∧
      y.Hears ticket job (x.pool.request hs settings now job x.server).1 := by
  have hask := run_ask hs settings hfresh now job
  have horder := h.run hask
  have hlt : x.pool.workerIndex job.room < x.pool.numWorkers := Shard.ofRoom_lt job.room h.pos
  unfold ask at hask horder
  simp only [Pool.request, dispatch]
  generalize x.pool.workerIndex job.room = i at *
  have hnever (result : Except RoomError job.Reply) :
      (ticket, .finished (.request now job) result) ∉ x.log i :=
    fun he => hfresh _ (h.sent_of_finished he) rfl
  have hdesk := desk_post_self x i ⟨ticket, .request now job⟩
  have hothers (j : Nat) (hij : i ≠ j) : (x.post i ⟨ticket, .request now job⟩).AtRest j :=
    (hrest j).of_desk (desk_post_of_ne x hij _)
  cases hw : x.pool.workers[i]? with
  | none => exact absurd hlt (Nat.not_lt.2 (List.getElem?_eq_none_iff.1 hw))
  | some worker =>
      cases worker with
      | none =>
          have hdead : (x.post i ⟨ticket, .request now job⟩).pool.workers[i]? = some none := hw
          refine ⟨x.post i ⟨ticket, .request now job⟩, hask, fun j => ?_, rfl, rfl, ?_⟩
          · by_cases hij : i = j
            · exact hij ▸ horder.atRest_of_dead hdead
            · exact hothers j hij
          · exact (horder.hears_iff_of_dead hdead
              (List.mem_append_right _ (List.mem_singleton_self _)) hnever).2 rfl
      | some w =>
          have hqueue : (x.post i ⟨ticket, .request now job⟩).queue i =
              [⟨ticket, .request now job⟩] := by
            simpa [Crew.desk, Desk.post, hw, (hrest i).1] using congrArg Desk.queue hdesk
          obtain ⟨y, hy⟩ := exists_single hs settings
            (x := x.post i ⟨ticket, .request now job⟩) hw (hrest i).2 hqueue
          have hsettled (j : Nat) : y.AtRest j := by
            by_cases hij : i = j
            · exact hij ▸ hy.rests
            · exact (hothers j hij).of_desk (hy.others j hij)
          obtain ⟨hreplied, hlost⟩ := horder.hears_of_single hw
            (List.mem_append_right _ (List.mem_singleton_self _)) hnever hy
          refine ⟨y, hask.trans hy.run, hsettled, ?_⟩
          cases hhandle : (w.handle settings now job).run hs x.server with
          | mk outcome s =>
              simp only [Option.join_some, hhandle]
              cases outcome with
              | some p =>
                  obtain ⟨hpool, hserver, -⟩ := hy.finished p.1 p.2 s hhandle
                  exact ⟨hpool, hserver, hreplied p.1 p.2 s hhandle⟩
              | none =>
                  obtain ⟨hpool, hserver, -⟩ := hy.died s hhandle
                  exact ⟨hpool, hserver, hlost s hhandle⟩

section

variable {now : Time} {rule : SweepRule}

theorem desk_shares (x : Crew σ) (ticket : Nat) (now : Time) (rule : SweepRule) (n j : Nat) :
    (x.shares ticket now rule n).desk j =
    if j < n then (x.desk j).post ⟨ticket, .sweep now rule⟩ else x.desk j := by
  induction n with
  | zero => rfl
  | succ n ih =>
      rw [shares_succ]
      by_cases hj : n = j
      · subst hj
        rw [desk_post_self, ih, if_neg (Nat.lt_irrefl _), if_pos (Nat.lt_succ_self _)]
      · rw [desk_post_of_ne _ hj, ih]
        exact if_congr (by omega) rfl rfl

theorem history_shares (n : Nat) : (x.shares ticket now rule n).history = x.history := by
  induction n with
  | zero => rfl
  | succ n ih => rwa [shares_succ]

theorem server_shares (n : Nat) : (x.shares ticket now rule n).server = x.server := by
  induction n with
  | zero => rfl
  | succ n ih => rwa [shares_succ]

theorem reports_of_single (hy : x.Single hs settings i w ⟨ticket, .sweep now rule⟩ y) :
    (∀ report w' s, (w.sweep rule now i).run hs x.server = (some (report, w'), s) →
      y.history.filterMap (Note.report? ticket) =
        x.history.filterMap (Note.report? ticket) ++ [report]) ∧
    ∀ s, (w.sweep rule now i).run hs x.server = (none, s) →
      y.history.filterMap (Note.report? ticket) = x.history.filterMap (Note.report? ticket) := by
  have hanswers (answers : List Answered) : (answers.map fun c =>
      Note.progress i ticket (.answered c)).filterMap (Note.report? ticket) = [] := by
    simp [List.filterMap_eq_nil_iff]
  refine ⟨fun report w' s hsweep => ?_, fun s hsweep => ?_⟩
  · obtain ⟨-, -, answers, hhistory⟩ := hy.finished report w' s hsweep
    rw [hhistory, List.filterMap_append, List.filterMap_append, List.filterMap_append, hanswers]
    simp
  · obtain ⟨-, -, answers, c, hhistory⟩ := hy.died s hsweep
    rw [hhistory, List.filterMap_append, List.filterMap_append, List.filterMap_append, hanswers]
    simp

/-- From some worker on, the workers have their shares of a sweep before them and nothing else. -/
structure Ready (ticket : Nat) (now : Time) (rule : SweepRule) (k : Nat)
    (workers : List (Option Worker)) (x : Crew σ) : Prop where
  workers : x.pool.workers.drop k = workers
  idle : ∀ j, k ≤ j → x.underway j = none
  queue : ∀ j, k ≤ j → x.queue j = if x.alive j then [⟨ticket, .sweep now rule⟩] else []

namespace Ready

variable {k : Nat} {worker : Option Worker} {workers : List (Option Worker)}

theorem getElem? (h : Ready ticket now rule k (worker :: workers) x) :
    x.pool.workers[k]? = some worker := by
  rw [← List.head?_drop, h.workers]
  rfl

theorem tail (h : Ready ticket now rule k (worker :: workers) x) :
    Ready ticket now rule (k + 1) workers x := by
  refine ⟨?_, fun j hj => h.idle j (Nat.le_of_succ_le hj), fun j hj =>
    h.queue j (Nat.le_of_succ_le hj)⟩
  rw [← List.drop_drop, h.workers]
  rfl

theorem of_others {w' : Option Worker} (h : Ready ticket now rule (k + 1) workers x)
    (hpool : y.pool = x.pool.setWorker k w') (hothers : ∀ j, k ≠ j → y.desk j = x.desk j) :
    Ready ticket now rule (k + 1) workers y := by
  have hdesk (j : Nat) (hj : k + 1 ≤ j) : y.desk j = x.desk j := hothers j (Nat.ne_of_lt hj)
  refine ⟨?_, fun j hj => ?_, fun j hj => ?_⟩
  · rw [hpool]
    exact (List.drop_set_of_lt (Nat.lt_succ_self k)).trans h.workers
  · exact (congrArg Desk.underway (hdesk j hj)).trans (h.idle j hj)
  · have halive : y.alive j = x.alive j :=
      congrArg (fun d => d.worker.join.isSome) (hdesk j hj)
    rw [halive]
    exact (congrArg Desk.queue (hdesk j hj)).trans (h.queue j hj)

end Ready

/-- From some worker on, all workers are through with their shares of a sweep. -/
structure SweptFrom (hs : Homeserver σ) (settings : RoomSettings) (ticket : Nat) (now : Time)
    (rule : SweepRule) (k : Nat) (workers : List (Option Worker)) (x y : Crew σ) : Prop where
  run : Run hs settings x y
  sent : y.sent = x.sent
  before : ∀ j < k, y.desk j = x.desk j
  rests : ∀ j, k ≤ j → y.AtRest j
  pool : y.pool.workers =
    x.pool.workers.take k ++ (sweepFrom hs rule now k workers x.server).2.1
  server : y.server = (sweepFrom hs rule now k workers x.server).2.2
  reports : y.history.filterMap (Note.report? ticket) = x.history.filterMap (Note.report? ticket) ++
    (sweepFrom hs rule now k workers x.server).1

namespace SweptFrom

variable {k : Nat} {workers : List (Option Worker)} {z : Crew σ}

theorem nil (h : Ready ticket now rule k [] x) :
    SweptFrom hs settings ticket now rule k [] x x := by
  refine ⟨.refl, rfl, fun _ _ => rfl, fun j hj => ⟨?_, h.idle j hj⟩, ?_, rfl, ?_⟩
  · have hnone : x.pool.workers[j]? = none := by
      have hlength := List.drop_eq_nil_iff.1 h.workers
      exact List.getElem?_eq_none_iff.2 (Nat.le_trans hlength hj)
    simpa [alive, hnone] using h.queue j hj
  · rw [sweepFrom, ← h.workers, List.take_append_drop]
  · rw [sweepFrom, List.append_nil]

theorem rests_of_succ (h : SweptFrom hs settings ticket now rule (k + 1) workers y z)
    (hk : y.AtRest k) (j : Nat) (hj : k ≤ j) : z.AtRest j := by
  rcases Nat.eq_or_lt_of_le hj with rfl | hlt
  · exact hk.of_desk (h.before k (Nat.lt_succ_self k))
  · exact h.rests j hlt

theorem cons_dead (hready : Ready ticket now rule k (none :: workers) x)
    (h : SweptFrom hs settings ticket now rule (k + 1) workers x y) :
    SweptFrom hs settings ticket now rule k (none :: workers) x y := by
  have hrest : x.AtRest k := by
    refine ⟨?_, hready.idle k (Nat.le_refl k)⟩
    simpa [alive, hready.getElem?] using hready.queue k (Nat.le_refl k)
  refine ⟨h.run, h.sent, fun j hj => h.before j (Nat.lt_succ_of_lt hj), h.rests_of_succ hrest, ?_,
    h.server, h.reports⟩
  rw [h.pool, List.take_add_one, hready.getElem?, sweepFrom, List.append_assoc]
  rfl

theorem cons_alive {w' : Option Worker} {reports : List SweepReport}
    (hworker : x.pool.workers[k]? = some (some w))
    (hy : x.Single hs settings k w ⟨ticket, .sweep now rule⟩ y)
    (hpool : y.pool = x.pool.setWorker k w')
    (hreports : y.history.filterMap (Note.report? ticket) =
      x.history.filterMap (Note.report? ticket) ++ reports)
    (hsweep : sweepFrom hs rule now k (some w :: workers) x.server =
      (reports ++ (sweepFrom hs rule now (k + 1) workers y.server).1,
        w' :: (sweepFrom hs rule now (k + 1) workers y.server).2.1,
        (sweepFrom hs rule now (k + 1) workers y.server).2.2))
    (h : SweptFrom hs settings ticket now rule (k + 1) workers y z) :
    SweptFrom hs settings ticket now rule k (some w :: workers) x z := by
  have htake : y.pool.workers.take (k + 1) = x.pool.workers.take k ++ [w'] := by
    rw [hpool, setWorker, List.take_add_one, List.take_set_of_le (Nat.le_refl k),
      List.getElem?_set_self (lt_of_getElem? hworker)]
    rfl
  refine ⟨hy.run.trans h.run, h.sent.trans hy.sent, fun j hj => ?_, h.rests_of_succ hy.rests, ?_,
    ?_, ?_⟩
  · exact (h.before j (Nat.lt_succ_of_lt hj)).trans (hy.others j (Nat.ne_of_gt hj))
  · rw [h.pool, htake, hsweep, List.append_assoc]
    rfl
  · rw [h.server, hsweep]
  · rw [h.reports, hreports, hsweep, List.append_assoc]

end SweptFrom

theorem Ready.exists_sweptFrom (hs : Homeserver σ) (settings : RoomSettings) {k : Nat}
    {workers : List (Option Worker)} (h : Ready ticket now rule k workers x) :
    ∃ y, SweptFrom hs settings ticket now rule k workers x y := by
  induction workers generalizing k x with
  | nil => exact ⟨x, .nil h⟩
  | cons worker workers ih =>
      cases worker with
      | none =>
          obtain ⟨y, hy⟩ := ih h.tail
          exact ⟨y, hy.cons_dead h⟩
      | some w =>
          have hqueue : x.queue k = [⟨ticket, .sweep now rule⟩] := by
            simpa [alive, h.getElem?] using h.queue k (Nat.le_refl k)
          obtain ⟨y, hy⟩ := exists_single hs settings h.getElem? (h.idle k (Nat.le_refl k)) hqueue
          obtain ⟨hreported, hlost⟩ := reports_of_single hy
          cases hsweep : (w.sweep rule now k).run hs x.server with
          | mk outcome s =>
              cases outcome with
              | some p =>
                  obtain ⟨hpool, hserver, -⟩ := hy.finished p.1 p.2 s hsweep
                  obtain ⟨z, hz⟩ := ih (h.tail.of_others hpool hy.others)
                  refine ⟨z, hz.cons_alive h.getElem? hy hpool (hreported p.1 p.2 s hsweep) ?_⟩
                  simp only [sweepFrom, hsweep, hserver, List.singleton_append]
              | none =>
                  obtain ⟨hpool, hserver, -⟩ := hy.died s hsweep
                  have hnone := (hlost s hsweep).trans (List.append_nil _).symm
                  obtain ⟨z, hz⟩ := ih (h.tail.of_others hpool hy.others)
                  refine ⟨z, hz.cons_alive h.getElem? hy hpool hnone ?_⟩
                  simp only [sweepFrom, hsweep, hserver, List.nil_append]

theorem sweepFrom_increasing (workers : List (Option Worker)) (k : Nat) (s : σ) :
    (∀ r ∈ (sweepFrom hs rule now k workers s).1, k ≤ r.workerId) ∧
      (sweepFrom hs rule now k workers s).1.Pairwise (·.workerId < ·.workerId) := by
  induction workers generalizing k s with
  | nil => exact ⟨nofun, .nil⟩
  | cons worker workers ih =>
      have hlater (s : σ) : ∀ r ∈ (sweepFrom hs rule now (k + 1) workers s).1, k < r.workerId :=
        (ih (k + 1) s).1
      cases worker with
      | none => exact ⟨fun r hr => Nat.le_of_lt (hlater s r hr), (ih (k + 1) s).2⟩
      | some w =>
          simp only [sweepFrom]
          split
          · rename_i report w' s' hsweep
            have hworker := ((Worker.swept_sweep rule now k w).of_run hsweep).worker
            refine ⟨?_, List.pairwise_cons.2 ⟨fun r hr => ?_, (ih (k + 1) s').2⟩⟩
            · rintro r (_ | ⟨_, hr⟩)
              · exact Nat.le_of_eq hworker.symm
              · exact Nat.le_of_lt (hlater s' r hr)
            · exact hworker ▸ hlater s' r hr
          · exact ⟨fun r hr => Nat.le_of_lt (hlater _ r hr), (ih (k + 1) _).2⟩

/-- A sweep with nothing else to do is a run of the workers, and its reports are those that came
in. -/
theorem InOrder.exists_run_sweep (h : x.InOrder settings) (hrest : ∀ i, x.AtRest i)
    (hfresh : ∀ a ∈ x.sent, a.2.ticket ≠ ticket) (now : Time) (rule : SweepRule) :
    ∃ y, Run hs settings x y ∧ (∀ i, y.AtRest i) ∧
      y.pool = (x.pool.sweep hs rule now x.server).2.1 ∧
      y.server = (x.pool.sweep hs rule now x.server).2.2 ∧ y.Swept ticket ∧
      y.reports ticket = (x.pool.sweep hs rule now x.server).1 := by
  have hshares := run_shares hs settings hfresh now rule (Nat.le_refl x.pool.numWorkers)
  have hpool : (x.shares ticket now rule x.pool.numWorkers).pool = x.pool := pool_shares ..
  have hdesk := desk_shares x ticket now rule x.pool.numWorkers
  have hserver : (x.shares ticket now rule x.pool.numWorkers).server = x.server := server_shares _
  have hready : Ready ticket now rule 0 x.pool.workers
      (x.shares ticket now rule x.pool.numWorkers) := by
    refine ⟨by rw [hpool]; rfl, fun j _ => ?_, fun j _ => ?_⟩
    · refine (congrArg Desk.underway (hdesk j)).trans ?_
      split <;> exact (hrest j).2
    · refine (congrArg Desk.queue (hdesk j)).trans ?_
      rw [alive, hpool]
      split
      · simp [Desk.post, Crew.desk, (hrest j).1]
      · rename_i hj
        rw [List.getElem?_eq_none_iff.2 (Nat.not_lt.1 hj)]
        exact (hrest j).1
  obtain ⟨y, hy⟩ := hready.exists_sweptFrom hs settings
  have hsettled (j : Nat) : y.AtRest j := hy.rests j (Nat.zero_le j)
  have hworkers := hy.pool
  rw [List.take_zero, List.nil_append, hserver] at hworkers
  refine ⟨y, hshares.trans hy.run, hsettled, congrArg Pool.mk hworkers, ?_, ?_, ?_⟩
  · rw [hy.server, hserver]
    rfl
  · refine ⟨?_, fun a ha hticket => ?_, not_awaits_of_forall_atRest hsettled⟩
    · have haddressed := addressed_shares hfresh now rule x.pool.numWorkers
      rw [addressed, hy.sent, numWorkers_eq_of_run (hshares.trans hy.run)]
      exact haddressed
    · rw [hy.sent] at ha
      exact ⟨now, rule, sweep_of_mem_shares hfresh ha hticket⟩
  · have hold : x.history.filterMap (Note.report? ticket) = [] := by
      refine List.filterMap_eq_nil_iff.2 fun note hnote => ?_
      by_contra hne
      obtain ⟨r, hr⟩ := Option.ne_none_iff_exists'.1 hne
      obtain ⟨i, now, rule, rfl⟩ := report?_eq_some.1 hr
      exact hfresh _ (h.sent_of_finished (mem_log.2 hnote)) rfl
    rw [reports, hy.reports, history_shares, hold, List.nil_append, hserver]
    refine List.mergeSort_of_pairwise ?_
    exact (sweepFrom_increasing x.pool.workers 0 x.server).2.imp fun hlt =>
      decide_eq_true (Nat.le_of_lt hlt)

end

end Crew

end RoomReader
