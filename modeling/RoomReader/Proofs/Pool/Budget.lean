import RoomReader.Proofs.Pool.Accounting
import RoomReader.Proofs.Server.Cached

namespace RoomReader

/-!
# How many calls a job makes

A room is loaded by one call, and read without any unless a page needs older events. Those are asked
for at most twice in a job: once to find the anchor and once to fill the page. A call that was in
vain is the last one of its job, and once a room has no older events it is never asked for them
again.
-/

/-- The call failed, or no messages came of it. -/
def Answered.isVain : Answered → Bool
  | ⟨.messages .., .ok m⟩ => m.chunk.isEmpty
  | ⟨_, .ok _⟩ => false
  | ⟨_, .error _⟩ => true

/-- A call for older events of a room, and for no fewer than 64. -/
def Call.Backfills (room : String) (c : Call) : Prop :=
  ∃ fromToken limit, c = .messages room fromToken .backward limit ∧ 64 ≤ limit

namespace Exchange

variable {α β : Type} {p : Call → Prop} {last : α → Prop} {last' : β → Prop} {x : Exchange α}
  {f : α → Exchange β} {m n : Nat}

/-- No call is made. -/
def Silent (x : Exchange α) : Prop := ∃ a, x = done a

/-- At most `n` calls are made, all of them of one kind. None is made after one that was in vain,
and the result is then one of the last kind. -/
inductive Costs (p : Call → Prop) (last : α → Prop) : Nat → Exchange α → Prop
  | done {n : Nat} (a : α) : Costs p last n (done a)
  | ask {n : Nat} {c : Call} {next : Except ApiError c.Reply → Exchange α} (hc : p c)
      (hvain : ∀ answer, Answered.isVain ⟨c, answer⟩ = true →
        ∃ a, next answer = Exchange.done a ∧ last a)
      (h : ∀ answer, Costs p last n (next answer)) : Costs p last (n + 1) (ask c next)

theorem Costs.mono (h : x.Costs p last m) (hmn : m ≤ n) : x.Costs p last n := by
  induction h generalizing n with
  | done a => exact .done a
  | ask hc hvain _ ih =>
      cases n with
      | zero => omega
      | succ n => exact .ask hc hvain fun answer => ih answer (Nat.le_of_succ_le_succ hmn)

theorem Costs.bind (h : x.Costs p last m)
    (hlast : ∀ a, last a → ∃ b, f a = Exchange.done b ∧ last' b)
    (hf : ∀ a, (f a).Costs p last' n) : (x >>= f).Costs p last' (m + n) := by
  induction h with
  | done a => exact (hf a).mono (Nat.le_add_left ..)
  | @ask m c next hc hvain _ ih =>
      rw [Nat.add_right_comm]
      refine .ask hc (fun answer hv => ?_) ih
      obtain ⟨a, hnext, ha⟩ := hvain answer hv
      obtain ⟨b, hb, hb'⟩ := hlast a ha
      refine ⟨b, ?_, hb'⟩
      change next answer >>= f = _
      rw [hnext]
      exact hb

end Exchange

/-! ## Reading a timeline -/

namespace Timeline

variable (t : Timeline) (room anchor : String)

theorem costs_backpaginate (amount : Nat) :
    (t.backpaginate room amount).Costs (Call.Backfills room)
      (fun p => (∃ e, p.1 = .error e) ∨ p.1 = .ok 0) 1 := by
  refine .ask ⟨_, _, rfl, Nat.le_max_right ..⟩ (fun answer hvain => ?_) fun answer => ?_
  · cases answer with
    | error e => exact ⟨_, rfl, .inl ⟨e, rfl⟩⟩
    | ok m =>
        obtain hempty : m.chunk = [] := List.isEmpty_iff.1 hvain
        refine ⟨_, rfl, .inr ?_⟩
        rw [hempty]
        rfl
  · cases answer <;> exact .done _

theorem costs_findAnchor :
    (t.findAnchor room anchor).Costs (Call.Backfills room)
      (fun p => (∃ e, p.1 = .error e) ∨ p.1 = .ok none) 1 := by
  unfold findAnchor
  split
  · exact .done _
  · split
    · exact .done _
    · refine (t.costs_backpaginate room anchorBackfill).bind (n := 0) ?_ ?_
      · rintro ⟨_, t'⟩ (⟨e, rfl⟩ | rfl)
        · exact ⟨_, rfl, .inl ⟨e, rfl⟩⟩
        · exact ⟨_, rfl, .inr rfl⟩
      · rintro ⟨e | received, t'⟩
        · exact .done _
        · exact .done _

theorem costs_anchorIndex :
    (t.anchorIndex room anchor).Costs (Call.Backfills room) (fun p => ∃ e, p.1 = .error e) 1 := by
  unfold anchorIndex
  split
  · exact .done _
  · refine (t.costs_findAnchor room anchor).bind (n := 0) ?_ ?_
    · rintro ⟨_, t'⟩ (⟨e, rfl⟩ | rfl)
      · exact ⟨_, rfl, _, rfl⟩
      · exact ⟨_, rfl, _, rfl⟩
    · rintro ⟨e | _ | i, t'⟩
      · exact .done _
      · exact .done _
      · exact .done _

theorem costs_reach (wanted : Nat) :
    (t.reach room wanted).Costs (Call.Backfills room) (fun _ => True) 1 := by
  unfold reach
  split
  · exact (t.costs_backpaginate room _).bind (n := 0) (fun _ _ => ⟨_, rfl, trivial⟩)
      fun _ => .done _
  · exact .done _

theorem costs_getPage (offset : Int) (pageSize : Nat) :
    (t.getPage room anchor offset pageSize).Costs (Call.Backfills room) (fun _ => True) 2 := by
  unfold getPage
  refine (t.costs_anchorIndex room anchor).bind (n := 1) ?_ ?_
  · rintro ⟨_, t'⟩ ⟨e, rfl⟩
    exact ⟨_, rfl, trivial⟩
  · rintro ⟨e | index, t'⟩
    · exact .done _
    · dsimp only
      split
      · exact (t'.costs_reach room _).bind (n := 0) (fun _ _ => ⟨_, rfl, trivial⟩) fun _ => .done _
      · exact .done _

variable {t anchor}

theorem silent_anchorIndex
    (h : t.historicEndReached = true ∨ anchor = "" ∨ (t.position? anchor).isSome = true) :
    ∃ index, t.anchorIndex room anchor = .done (index, t) := by
  unfold anchorIndex
  split
  · exact ⟨_, rfl⟩
  · rename_i hanchor
    cases hposition : t.position? anchor with
    | some i =>
        simp only [findAnchor, hposition]
        exact ⟨_, rfl⟩
    | none =>
        have hended : t.historicEndReached = true := by
          rcases h with hended | rfl | hsome
          · exact hended
          · exact absurd rfl hanchor
          · rw [hposition] at hsome
            cases hsome
        simp only [findAnchor, hposition, hended]
        exact ⟨_, rfl⟩

/-- A page is read without a call if there is nothing older, or if it lies between a known anchor
and the present. -/
theorem silent_getPage {offset : Int} (pageSize : Nat)
    (h : t.historicEndReached = true ∨
      offset < 0 ∧ (anchor = "" ∨ (t.position? anchor).isSome = true)) :
    ∃ page, t.getPage room anchor offset pageSize = .done (page, t) := by
  obtain ⟨index, hindex⟩ := t.silent_anchorIndex room (h.imp_right (·.2))
  simp only [getPage, hindex, Exchange.done_bind]
  rcases index with e | index
  · exact ⟨_, rfl⟩
  · dsimp only
    split
    · rename_i hnonneg
      have hended : t.historicEndReached = true :=
        h.resolve_right fun hbefore => absurd hbefore.1 (Int.not_lt.2 hnonneg)
      have hreach (wanted : Nat) : t.reach room wanted = .done t := by
        simp [reach, hended]
      rw [hreach]
      exact ⟨_, rfl⟩
    · exact ⟨_, rfl⟩

end Timeline

theorem Room.historicEnd_receive (r : Room) (answer : Except ApiError Messages) :
    (r.receive answer).timeline.historicEndReached = r.timeline.historicEndReached := by
  cases answer <;> rfl

theorem Room.costs_getPage (now : Time) (anchor : String) (offset : Int) (pageSize : Nat)
    (r : Room) :
    (r.getPage now anchor offset pageSize).Costs (Call.Backfills r.id) (fun _ => True) 2 := by
  unfold getPage
  exact (r.timeline.costs_getPage r.id anchor offset pageSize).bind (n := 0)
    (fun _ _ => ⟨_, rfl, trivial⟩) fun _ => .done _

/-! ## Jobs -/

/-- What the jobs of a worker may ask for. -/
structure Worker.Budgeted (settings : RoomSettings) (w : Worker) : Prop where
  cached : ∀ now room, room ∈ w.rooms → (w.handle settings now (.initialSync room)).Silent
  loaded : ∀ now room, room ∉ w.rooms →
    ∃ next, w.handle settings now (.initialSync room) = .ask (.sync room settings.syncLimit) next ∧
      ∀ answer, (next answer).Silent
  page : ∀ now room anchor offset pageSize,
    (w.handle settings now (.eventsPage room anchor offset pageSize)).Costs
      (Call.Backfills room) (fun _ => True) 2
  missing : ∀ now room anchor offset pageSize, room ∉ w.rooms →
    (w.handle settings now (.eventsPage room anchor offset pageSize)).Silent
  buffered : ∀ now room anchor offset pageSize (r : Room), w.rooms[room]? = some r → offset < 0 →
    anchor = "" ∨ (r.timeline.position? anchor).isSome = true →
    (w.handle settings now (.eventsPage room anchor offset pageSize)).Silent
  ended : ∀ now room anchor offset pageSize (r : Room), w.rooms[room]? = some r →
    r.timeline.historicEndReached = true →
    (w.handle settings now (.eventsPage room anchor offset pageSize)).Silent
  members : ∀ now room page pageSize,
    (w.handle settings now (.members room page pageSize)).Silent
  servers : ∀ now room page pageSize,
    (w.handle settings now (.servers room page pageSize)).Silent
  aliases : ∀ now room page pageSize,
    (w.handle settings now (.aliases room page pageSize)).Silent
  memberInfo : ∀ now room user, (w.handle settings now (.memberInfo room user)).Silent
  powerLevels : ∀ now room, (w.handle settings now (.powerLevels room)).Silent

namespace Worker

variable {w w' : Worker} {settings : RoomSettings} {now : Time} {room anchor : String} {r : Room}
  {offset : Int}

theorem initialSync_of_none (hr : w.rooms[room]? = none) :
    ∃ next, w.initialSync settings now room = .ask (.sync room settings.syncLimit) next ∧
      ∀ answer, (next answer).Silent := by
  simp only [initialSync, hr]
  refine ⟨_, rfl, fun answer => ?_⟩
  cases answer <;> exact ⟨_, rfl⟩

theorem costs_eventsPage (hw : w.Filed) (now : Time) (room anchor : String) (offset : Int)
    (pageSize : Nat) :
    (w.eventsPage settings now room anchor offset pageSize).Costs (Call.Backfills room)
      (fun _ => True) 2 := by
  unfold eventsPage
  split
  · exact .done _
  · rename_i r hr
    obtain rfl : r.id = room := hw room r hr
    exact (r.costs_getPage now anchor offset pageSize).bind (n := 0)
      (fun _ _ => ⟨_, rfl, trivial⟩) fun _ => .done _

theorem eventsPage_of_silent (hr : w.rooms[room]? = some r) (pageSize : Nat)
    (h : r.timeline.historicEndReached = true ∨
      offset < 0 ∧ (anchor = "" ∨ (r.timeline.position? anchor).isSome = true)) :
    ∃ reply, w.eventsPage settings now room anchor offset pageSize =
      .done (reply, { w with rooms := w.rooms.insert room (r.access now) }) := by
  obtain ⟨page, hpage⟩ := Timeline.silent_getPage r.id pageSize h
  simp only [eventsPage, hr, Room.getPage, hpage]
  exact ⟨_, rfl⟩

theorem Filed.budgeted (hw : w.Filed) (settings : RoomSettings) : w.Budgeted settings where
  cached now room hroom := by
    obtain ⟨r, hr⟩ := Option.isSome_iff_exists.1 (Std.ExtTreeMap.mem_iff_isSome_getElem?.1 hroom)
    simp only [handle, initialSync, hr]
    exact ⟨_, rfl⟩
  loaded now room hroom := initialSync_of_none (Std.ExtTreeMap.getElem?_eq_none hroom)
  page now room anchor offset pageSize := costs_eventsPage hw ..
  missing now room anchor offset pageSize hroom := by
    simp only [handle, eventsPage, Std.ExtTreeMap.getElem?_eq_none hroom]
    exact ⟨_, rfl⟩
  buffered now room anchor offset pageSize r hr hoffset hanchor := by
    obtain ⟨reply, hreply⟩ := eventsPage_of_silent hr pageSize (.inr ⟨hoffset, hanchor⟩)
    exact ⟨_, hreply⟩
  ended now room anchor offset pageSize r hr hended := by
    obtain ⟨reply, hreply⟩ := eventsPage_of_silent hr pageSize (.inl hended)
    exact ⟨_, hreply⟩
  members _ _ _ _ := ⟨_, rfl⟩
  servers _ _ _ _ := ⟨_, rfl⟩
  aliases _ _ _ _ := ⟨_, rfl⟩
  memberInfo _ _ _ := ⟨_, rfl⟩
  powerLevels _ _ := ⟨_, rfl⟩

end Worker

/-! ## The end of a history -/

namespace Pool

variable {settings : RoomSettings} {i : Nat} {w : Worker}

/-- A room that has no older events has none after a task either, unless it is dropped. -/
theorem historicEnd_perform (settings : RoomSettings) (i : Nat) (w : Worker) (task : Task) :
    (perform settings i w task).Within (fun _ => True) fun p => ∀ (room : String) (r r' : Room),
      w.rooms[room]? = some r → r.timeline.historicEndReached = true →
      p.2.rooms[room]? = some r' → r'.timeline.historicEndReached = true := by
  refine Exchange.within_of_reaches fun answers p hreaches room r r' hr hended hr' => ?_
  obtain ⟨result, w'⟩ := p
  cases task with
  | request now job =>
      obtain ⟨r'', hr'', hread⟩ := (Worker.keeps_handle hreaches.run_replay).held room r hr
      rw [hr'] at hr''
      cases hr''
      rw [hread.deepens.eq_of_historicEnd hended, hended]
  | sweep now rule =>
      obtain ⟨reply, -, -, -, hw'⟩ := Worker.reaches_sweep hreaches
      rw [hw'] at hr'
      obtain ⟨r₁, hr₁, rfl⟩ := Option.map_eq_some_iff.1 hr'
      rcases evictStale_eq_none_or_eq rule now w room with hnone | heq
      · rw [hnone] at hr₁
        cases hr₁
      · rw [heq, hr] at hr₁
        cases hr₁
        rw [Room.historicEnd_receive, hended]

theorem Labours.historicEnd_of_finished {log : Log} {ticket : Nat} {task : Task}
    {result : task.Result} {w' : Worker} {room : String} {r r' : Room}
    (h : Labours settings i log w (some (ticket, ⟨task, .done (result, w')⟩)))
    (hr : w.rooms[room]? = some r) (hended : r.timeline.historicEndReached = true)
    (hr' : w'.rooms[room]? = some r') : r'.timeline.historicEndReached = true := by
  have hrest := (h.invariant (I := fun _ => True) trivial
    (fun w _ task => historicEnd_perform settings i w task) fun _ _ _ _ _ => trivial).2 _ rfl
  cases hrest with
  | done hkept => exact hkept room r r' hr hended hr'

end Pool

namespace Crew

variable {σ : Type} {hs : Homeserver σ} {settings : RoomSettings} {numWorkers : Nat} {x y : Crew σ}
  {room : String} {r r' : Room}

/-- A run in which a room stays cached. -/
abbrev RunCaching (hs : Homeserver σ) (settings : RoomSettings) (room : String) :
    Crew σ → Crew σ → Prop :=
  Relation.ReflTransGen fun x y => Step hs settings x y ∧ (y.pool.cached? room).isSome = true

/-- A worker that lives on is as it was, or has just finished a task. -/
theorem Step.eq_or_finished {i : Nat} {w w' : Worker} (hstep : Step hs settings x y)
    (hw : x.pool.workers[i]? = some (some w)) (hw' : y.pool.workers[i]? = some (some w')) :
    w' = w ∨ ∃ (ticket : Nat) (task : Pool.Task) (result : task.Result),
      x.underway i = some (ticket, ⟨task, .done (result, w')⟩) := by
  have hsame (h : y.pool.workers[i]? = x.pool.workers[i]?) : w' = w := by
    rw [hw', hw] at h
    exact Option.some.inj (Option.some.inj h)
  cases hstep with
  | request | share | change => exact .inl (hsame rfl)
  | @labour j ticket w₁ w₂ u u' p queue s hworker hunderway hproceeds hsupply =>
      by_cases hij : j = i
      · subst hij
        have hget : (x.pool.setWorker j (some w₂)).workers[j]? = some (some w₂) :=
          List.getElem?_set_self (lt_of_getElem? hworker)
        obtain rfl := Option.some.inj (Option.some.inj (hget.symm.trans hw'))
        cases hproceeds with
        | began => exact .inl (Option.some.inj (Option.some.inj (hworker.symm.trans hw)))
        | answered => exact .inl (Option.some.inj (Option.some.inj (hworker.symm.trans hw)))
        | finished task result => exact .inr ⟨ticket, task, result, hunderway⟩
      · exact .inl (hsame (List.getElem?_set_ne hij))
  | @die j ticket w₁ task c next s hworker hunderway hdeath =>
      by_cases hij : j = i
      · subst hij
        have hget : (x.pool.setWorker j none).workers[j]? = some none :=
          List.getElem?_set_self (lt_of_getElem? hworker)
        cases hget.symm.trans hw'
      · exact .inl (hsame (List.getElem?_set_ne hij))

theorem exists_of_cached? (h : x.pool.cached? room = some r) :
    ∃ w, x.pool.workers[x.pool.workerIndex room]? = some (some w) ∧ w.rooms[room]? = some r := by
  obtain ⟨w, hw, hr⟩ := Option.bind_eq_some_iff.1 h
  exact ⟨w, Option.join_eq_some_iff.1 hw, hr⟩

theorem Step.historicEnd (hstep : Step hs settings x y) (hx : x.InOrder settings)
    (hr : x.pool.cached? room = some r) (hended : r.timeline.historicEndReached = true)
    (hr' : y.pool.cached? room = some r') : r'.timeline.historicEndReached = true := by
  obtain ⟨w, hw, hr⟩ := exists_of_cached? hr
  obtain ⟨w', hw', hr'⟩ := exists_of_cached? hr'
  rw [Pool.workerIndex, numWorkers_eq_of_step hstep, ← Pool.workerIndex] at hw'
  rcases hstep.eq_or_finished hw hw' with rfl | ⟨ticket, task, result, hunderway⟩
  · rw [hr] at hr'
    cases hr'
    exact hended
  · have hlabours := (hx.labours hw).1
    rw [hunderway] at hlabours
    exact hlabours.historicEnd_of_finished hr hended hr'

/-- The end of a history stays known as long as the room is cached. -/
theorem RunCaching.historicEnd (hrun : RunCaching hs settings room x y) (hx : x.InOrder settings)
    (hr : x.pool.cached? room = some r) (hended : r.timeline.historicEndReached = true) :
    y.InOrder settings ∧
      ∃ r', y.pool.cached? room = some r' ∧ r'.timeline.historicEndReached = true := by
  induction hrun with
  | refl => exact ⟨hx, r, hr, hended⟩
  | tail _ hstep ih =>
      obtain ⟨hy, r', hr', hended'⟩ := ih
      obtain ⟨r'', hr''⟩ := Option.isSome_iff_exists.1 hstep.2
      exact ⟨hy.run (.single hstep.1), r'', hr'', hstep.1.historicEnd hy hr' hended' hr''⟩

/-- No job of a worker asks for more than it may. Once a cached room is known to have no older
events this stays known as long as the room is cached, and no page of it makes a call. -/
theorem call_budget (hx : Reachable hs settings numWorkers x) :
    (∀ (i : Nat) (w : Worker), x.pool.workers[i]? = some (some w) → w.Budgeted settings) ∧
    ∀ room r y, x.pool.cached? room = some r → r.timeline.historicEndReached = true →
      RunCaching hs settings room x y →
      ∃ w' r', y.pool.workers[y.pool.workerIndex room]? = some (some w') ∧
        w'.rooms[room]? = some r' ∧ r'.timeline.historicEndReached = true ∧
        ∀ now anchor offset pageSize,
          (w'.handle settings now (.eventsPage room anchor offset pageSize)).Silent := by
  have hbudget {x : Crew σ} (hx : x.InOrder settings) {i : Nat} {w : Worker}
      (hw : x.pool.workers[i]? = some (some w)) : w.Budgeted settings :=
    (hx.labours hw).1.filed.budgeted settings
  refine ⟨fun i w hw => hbudget hx.inOrder hw, fun room r y hr hended hrun => ?_⟩
  obtain ⟨hy, r', hr', hended'⟩ := hrun.historicEnd hx.inOrder hr hended
  obtain ⟨w', hw', hr'⟩ := exists_of_cached? hr'
  exact ⟨w', r', hw', hr', hended', fun now anchor offset pageSize =>
    (hbudget hy hw').ended now room anchor offset pageSize r' hr' hended'⟩

end Crew

/-! An event is looked for in vain until the small room is known to have no older ones. -/

namespace SmallRoom

open Crew

/-- The second search has come to the start of the room. -/
def searched : Crew Unit :=
  ((((Crew.idle (.ofSize 1) ()).ask 0 1 (.initialSync room)).ask 1 2 missing).ask 2 3 missing).turns
    server settings (List.replicate 9 0)

theorem reachable_searched : Crew.Reachable server settings 1 searched :=
  ⟨(), (((run_ask server settings (by decide +kernel) 1 _).trans
    (run_ask server settings (by decide +kernel) 2 _)).trans
    (run_ask server settings (by decide +kernel) 3 _)).trans (run_turns ..)⟩

theorem search_is_over : ∃ w r,
    (searched.ask 3 4 missing).pool.workers[0]? = some (some w) ∧ w.rooms[room]? = some r ∧
    r.timeline.historicEndReached = true ∧ w.Budgeted settings ∧
    (w.handle settings 4 missing).Silent := by
  obtain ⟨hbudget, hended⟩ := call_budget reachable_searched
  have hroom : ((searched.pool.cached? room).map (·.timeline.historicEndReached)) = some true := by
    cbv
  obtain ⟨r, hr, hend⟩ := Option.map_eq_some_iff.1 hroom
  have hcached : ((searched.ask 3 4 missing).pool.cached? room).isSome = true := by
    rw [Crew.ask, Crew.post, hr]
    rfl
  obtain ⟨w, r', hw, hr', hend', hsilent⟩ := hended room r (searched.ask 3 4 missing) hr hend
    (.single ⟨.request (by decide +kernel), hcached⟩)
  have hindex : (searched.ask 3 4 missing).pool.workerIndex room = 0 := by decide +kernel
  rw [hindex] at hw
  exact ⟨w, r', hw, hr', hend', hbudget 0 w hw, hsilent 4 "$missing" 0 10⟩

end SmallRoom

end RoomReader
