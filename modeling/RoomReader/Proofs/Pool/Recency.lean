import Mathlib
import RoomReader.Proofs.Pool.Crew
import RoomReader.Proofs.Pool.Independence
import RoomReader.Proofs.Pool.Tasks

namespace RoomReader

open Pool

/-!
# Which rooms were accessed last

The time of a cached room is that of the last job on it that its worker finished, whatever the job
came to. So a sweep does not come between the loading of a room and a job that follows soon enough,
and it keeps the rooms that were accessed last.
-/

namespace Pool

def Task.time : Task → Time
  | request now _ => now
  | sweep now _ => now

namespace Progress

def access? (room : String) : Progress → Option Time
  | finished (.request now job) _ => if job.room = room then some now else none
  | _ => none

variable {room : String} {t : Time}

@[simp] theorem access?_began (task : Task) (evicted : List String) :
    (began task evicted).access? room = none := rfl

@[simp] theorem access?_answered (a : Answered) : (answered a).access? room = none := rfl

@[simp] theorem access?_sweep (now : Time) (rule : SweepRule) (report : SweepReport) :
    (finished (.sweep now rule) report).access? room = none := rfl

@[simp] theorem access?_request (now : Time) (job : Job) (result : Except RoomError job.Reply) :
    (finished (.request now job) result).access? room =
      if job.room = room then some now else none := rfl

theorem time_of_access? (p : Progress) (h : p.access? room = some t) :
    p.finished?.map Task.time = some t := by
  cases p with
  | began task => cases h
  | answered => cases h
  | finished task result =>
      cases task with
      | sweep => cases h
      | request now job => exact (Option.ite_none_right_eq_some.1 h).2

end Progress

namespace Log

def accesses (log : Log) (room : String) : List Time := log.filterMap fun e => e.2.access? room

def times (log : Log) : List Time := log.filterMap fun e => e.2.finished?.map Task.time

theorem times_eq (log : Log) : log.times = log.finished.map fun a => a.task.time := by
  simp [times, finished, List.map_filterMap, Function.comp_def]

theorem accesses_append (log later : Log) (room : String) :
    accesses (log ++ later) room = log.accesses room ++ later.accesses room :=
  List.filterMap_append

theorem times_append (log later : Log) : times (log ++ later) = log.times ++ later.times :=
  List.filterMap_append

theorem accesses_concat (log : Log) (ticket : Nat) (p : Progress) (room : String) :
    accesses (log ++ [(ticket, p)]) room = log.accesses room ++ (p.access? room).toList :=
  accesses_append log [(ticket, p)] room

theorem accesses_sublist (log : Log) (room : String) : (log.accesses room).Sublist log.times := by
  induction log using List.reverseRecOn with
  | nil => exact .slnil
  | append_singleton log e ih =>
      obtain ⟨ticket, p⟩ := e
      rw [accesses_concat, times_append]
      refine ih.append ?_
      cases haccess : p.access? room with
      | none => exact List.nil_sublist _
      | some t =>
          have htime : times [(ticket, p)] = [t] :=
            List.filterMap_cons_some (p.time_of_access? haccess)
          exact htime ▸ List.Sublist.refl [t]

end Log

end Pool

namespace Worker.Swept

variable {rule : SweepRule} {now : Time} {i : Nat} {w w' : Worker} {report : SweepReport}
  {room : String} {r : Room}

theorem exists_of_getElem? (h : Swept rule now i w (report, w')) (hr : w'.rooms[room]? = some r) :
    ∃ r', w.rooms[room]? = some r' ∧ Worker.tag r' = Worker.tag r := by
  have htag := h.tag room
  rw [hr] at htag
  obtain ⟨r', hr', heq⟩ := Option.map_eq_some_iff.1 htag.symm
  rcases evictStale_eq_none_or_eq rule now w room with hnone | hsame
  · rw [hnone] at hr'
    cases hr'
  · exact ⟨r', hsame ▸ hr', heq⟩

/-- A room is left if it was accessed since the cutoff, or was among those accessed last. -/
theorem exists_of_recent (h : Swept rule now i w (report, w')) (hr : w.rooms[room]? = some r)
    (hrecent : now - rule.ttl ≤ r.lastAccess ∨
      (w.accesses.filter (r.lastAccess ≤ ·.2)).length ≤ rule.keepMin) :
    ∃ r', w'.rooms[room]? = some r' ∧ Worker.tag r' = Worker.tag r := by
  rcases evictStale_eq_none_or_eq rule now w room with hnone | hsame
  · obtain ⟨hstale, hcount⟩ := Worker.of_evictStale_eq_none hr hnone
    rcases hrecent with hlate | hfew
    · exact absurd hstale (Int.not_lt.2 hlate)
    · exact absurd hcount (Nat.not_lt.2 hfew)
  · have htag := h.tag room
    rw [hsame, hr] at htag
    exact Option.map_eq_some_iff.1 htag

end Worker.Swept

namespace Pool

variable {settings : RoomSettings} {i : Nat} {log before between : Log} {w : Worker}
  {u : Option (Nat × Underway)} {room : String} {r : Room} {t₀ : Time} {ttl : Int}

theorem Labours.getLast?_accesses (h : Labours settings i log w u) (hr : w.rooms[room]? = some r) :
    (log.accesses room).getLast? = some r.lastAccess := by
  induction h generalizing r with
  | start => simp at hr
  | @step log ticket p w w' v v' h hproceeds ih =>
      cases hproceeds with
      | began task => simpa [Log.accesses_concat] using ih hr
      | answered task c next answer => simpa [Log.accesses_concat] using ih hr
      | finished task result =>
          have hdoes := h.does_of_finished
          cases task with
          | sweep now rule =>
              obtain ⟨r', hr', htag⟩ := hdoes.exists_of_getElem? hr
              have htime : r'.lastAccess = r.lastAccess := congrArg Prod.snd htag
              simpa [Log.accesses_concat, htime] using ih hr'
          | request now job =>
              by_cases hroom : job.room = room
              · subst hroom
                simp [Log.accesses_concat, hdoes.stamped r hr]
              · rw [hdoes.other room (Ne.symm hroom)] at hr
                simpa [Log.accesses_concat, hroom] using ih hr

theorem le_of_getLast?_eq {times : List Time} {t last : Time} (htimes : times.Pairwise (· ≤ ·))
    (ht : t ∈ times) (hlast : times.getLast? = some last) : t ≤ last := by
  obtain ⟨early, rfl⟩ := List.getLast?_eq_some_iff.1 hlast
  rcases List.mem_append.1 ht with hearly | heq
  · exact (List.pairwise_append.1 htimes).2.2 t hearly last (List.mem_singleton_self last)
  · exact Int.le_of_eq (List.mem_singleton.1 heq)

/-- A room that was loaded is held as long as only sweeps that let it stay came in between. -/
theorem Labours.mem_rooms_of_loaded {ticket : Nat}
    (h : Labours settings i
      (before ++ [(ticket, .finished (.request t₀ (.initialSync room)) (.ok ()))] ++ between) w u)
    (htimes : (Log.times (before ++
      [(ticket, .finished (.request t₀ (.initialSync room)) (.ok ()))] ++ between)).Pairwise (· ≤ ·))
    (hsweeps : ∀ e ∈ between, ∀ now rule report, e.2 = .finished (.sweep now rule) report →
      now ≤ t₀ + rule.ttl) :
    room ∈ w.rooms := by
  induction between using List.reverseRecOn generalizing w u with
  | nil =>
      rw [List.append_nil] at h
      obtain ⟨w₀, v, v', hbefore, hproceeds, -⟩ := h.of_snoc
      cases hproceeds with
      | finished => exact hbefore.does_of_finished.held () rfl
  | append_singleton between e ih =>
      rw [← List.append_assoc] at h htimes
      obtain ⟨ticket', p⟩ := e
      obtain ⟨w₀, v, v', hbefore, hproceeds, -⟩ := h.of_snoc
      rw [Log.times_append] at htimes
      have htimes₀ := (List.pairwise_append.1 htimes).1
      have hheld := ih hbefore htimes₀ fun e he => hsweeps e (List.mem_append_left _ he)
      cases hproceeds with
      | began task => exact hheld
      | answered task c next answer => exact hheld
      | finished task result =>
          have hdoes := hbefore.does_of_finished
          cases task with
          | request now job =>
              by_cases hroom : job.room = room
              · subst hroom
                exact (hdoes.kept hheld).1
              · rw [Std.ExtTreeMap.mem_iff_isSome_getElem?, hdoes.other room (Ne.symm hroom)]
                exact Std.ExtTreeMap.mem_iff_isSome_getElem?.1 hheld
          | sweep now rule =>
              obtain ⟨r, hr⟩ := Option.isSome_iff_exists.1
                (Std.ExtTreeMap.mem_iff_isSome_getElem?.1 hheld)
              have hloaded : t₀ ∈ Log.accesses (before ++
                  [(ticket, .finished (.request t₀ (.initialSync room)) (.ok ()))] ++ between)
                  room :=
                List.mem_filterMap.2 ⟨_, List.mem_append_left _ List.mem_concat_self, if_pos rfl⟩
              have hlate : t₀ ≤ r.lastAccess :=
                le_of_getLast?_eq (htimes₀.sublist (Log.accesses_sublist ..)) hloaded
                  (hbefore.getLast?_accesses hr)
              have hnow := hsweeps _ (List.mem_append_right _ (List.mem_singleton_self _)) now rule
                result rfl
              have hrecent : now - rule.ttl ≤ r.lastAccess :=
                Int.sub_right_le_of_le_add (Int.le_trans hnow (Int.add_le_add_right hlate _))
              obtain ⟨r', hr', -⟩ := hdoes.exists_of_recent hr (.inl hrecent)
              exact Worker.mem_rooms_of_getElem? hr'

theorem eq_of_getElem? {α : Type} {l : List α} {m : Nat} {a : α} (h : l[m]? = some a) :
    l = l.take m ++ [a] ++ l.drop (m + 1) := by
  obtain ⟨hm, rfl⟩ := List.getElem?_eq_some_iff.1 h
  rw [List.append_assoc, List.singleton_append, List.getElem_cons_drop, List.take_append_drop]

/-- A job that soon follows a load on the log finds the room. -/
theorem Labours.loaded_of_soon {m n first second : Nat} {t₁ : Time} {job : Job}
    {result : Except RoomError job.Reply} (h : Labours settings i log w u)
    (htimes : log.times.Pairwise (· ≤ ·))
    (hload : log[m]? = some (first, .finished (.request t₀ (.initialSync job.room)) (.ok ())))
    (hjob : log[n]? = some (second, .finished (.request t₁ job) result)) (hmn : m < n)
    (hsoon : t₁ ≤ t₀ + ttl)
    (hsweeps : ∀ k ticket now rule report, m < k → k < n →
      log[k]? = some (ticket, .finished (.sweep now rule) report) → ttl ≤ rule.ttl) :
    Loaded result := by
  have hn := eq_of_getElem? hjob
  rw [hn] at h htimes
  obtain ⟨_, _, hafter⟩ := h.of_append
  obtain ⟨w₀, v, v', hbefore, hproceeds, -⟩ := hafter.of_snoc
  rw [Log.times_append, Log.times_append] at htimes
  have htimes₁ := (List.pairwise_append.1 htimes).1
  have hm := eq_of_getElem? ((List.getElem?_take_of_lt hmn).trans hload)
  have hearlier : ∀ e ∈ (log.take n).drop (m + 1), ∀ now rule report,
      e.2 = .finished (.sweep now rule) report → now ≤ t₀ + rule.ttl := by
    rintro ⟨ticket, p⟩ he now rule report rfl
    have hnow : now ∈ Log.times (log.take n) :=
      List.mem_filterMap.2 ⟨_, List.mem_of_mem_drop he, rfl⟩
    have hbound : now ≤ t₁ :=
      (List.pairwise_append.1 htimes₁).2.2 now hnow t₁ (List.mem_singleton_self t₁)
    obtain ⟨k, hk⟩ := List.mem_iff_getElem?.1 he
    rw [List.getElem?_drop] at hk
    obtain ⟨hlt, -⟩ := List.getElem?_eq_some_iff.1 hk
    have hkn : m + 1 + k < n := Nat.lt_of_lt_of_le hlt (List.length_take_le ..)
    rw [List.getElem?_take_of_lt hkn] at hk
    have hrule := hsweeps _ _ _ _ _ (by omega) hkn hk
    exact Int.le_trans (Int.le_trans hbound hsoon) (Int.add_le_add_left hrule _)
  have hheld : job.room ∈ w₀.rooms :=
    Labours.mem_rooms_of_loaded (hm ▸ hbefore) (hm ▸ (List.pairwise_append.1 htimes₁).1) hearlier
  cases hproceeds with
  | finished => exact (hbefore.does_of_finished.kept hheld).2

end Pool

namespace Crew

/-- The time of a cached room is that of the last job on it that was finished, whatever it came to.
A job that is done no longer than `ttl` after a load finds the room, if the clock does not go back
and all sweeps in between allow rooms that long. A sweep keeps the times of the rooms, and it keeps
a room that is among those accessed last, of which a number is always kept. -/
theorem recency_discipline {σ : Type} {hs : Homeserver σ} {settings : RoomSettings}
    {numWorkers : Nat} {x : Crew σ} (hx : Reachable hs settings numWorkers x) (i : Nat) :
    (∀ w room r, x.pool.workers[i]? = some (some w) → w.rooms[room]? = some r →
      ((x.log i).accesses room).getLast? = some r.lastAccess) ∧
    ((x.log i).times.Pairwise (· ≤ ·) →
      ∀ (m n first second : Nat) (t₀ t₁ : Time) (ttl : Int) (job : Job)
        (result : Except RoomError job.Reply),
      (x.log i)[m]? = some (first, .finished (.request t₀ (.initialSync job.room)) (.ok ())) →
      (x.log i)[n]? = some (second, .finished (.request t₁ job) result) → m < n → t₁ ≤ t₀ + ttl →
      (∀ k ticket now rule report, m < k → k < n →
        (x.log i)[k]? = some (ticket, .finished (.sweep now rule) report) → ttl ≤ rule.ttl) →
      ∀ room, result ≠ .error (.notLoaded room)) ∧
    ∀ y ticket now rule report, Step hs settings x y →
      y.log i = x.log i ++ [(ticket, .finished (.sweep now rule) report)] →
      ∃ w w', x.pool.workers[i]? = some (some w) ∧ y.pool.workers[i]? = some (some w') ∧
        (∀ (room : String) r', w'.rooms[room]? = some r' →
          ∃ r, w.rooms[room]? = some r ∧ r.lastAccess = r'.lastAccess) ∧
        ∀ (room : String) r, w.rooms[room]? = some r →
          (w.accesses.filter (r.lastAccess ≤ ·.2)).length ≤ rule.keepMin →
          ∃ r', w'.rooms[room]? = some r' ∧ r'.lastAccess = r.lastAccess := by
  have h := hx.inOrder
  refine ⟨?_, ?_, ?_⟩
  · intro w room r hw hr
    exact (h.labours hw).1.getLast?_accesses hr
  · intro htimes m n first second t₀ t₁ ttl job result hload hjob hmn hsoon hsweeps
    obtain ⟨_, _, hlabours⟩ := h.exists_labours i
    exact hlabours.loaded_of_soon htimes hload hjob hmn hsoon hsweeps
  · intro y ticket now rule report hstep hlog
    rcases hstep.log_eq_or_proceeds i with
      hsame | ⟨_, _, w, v, w', v', hw, hv, hproceeds, hlog', hw'⟩
    · rw [hsame] at hlog
      exact absurd hlog (by simp)
    · cases List.singleton_inj.1 (List.append_cancel_left (hlog.symm.trans hlog'))
      have hlabours := (h.labours hw).1
      cases hproceeds with
      | finished =>
          rw [hv] at hlabours
          have hswept := hlabours.does_of_finished
          refine ⟨w, w', hw, hw', ?_, ?_⟩
          · intro room r' hr'
            obtain ⟨r, hr, htag⟩ := hswept.exists_of_getElem? hr'
            exact ⟨r, hr, congrArg Prod.snd htag⟩
          · intro room r hr hfew
            obtain ⟨r', hr', htag⟩ := hswept.exists_of_recent hr (.inr hfew)
            exact ⟨r', hr', congrArg Prod.snd htag⟩

end Crew

/-! One worker loads two rooms and is sent through a sweep. The small room is then asked for an
event that it does not have, and the next sweep keeps this room alone. -/

namespace SmallRoom

open Crew

def shortRule : SweepRule := { ttl := 5, keepMin := 1 }

def missing : Job := .eventsPage room "$missing" 0 10

def visits : Crew Unit :=
  ((((Crew.idle (.ofSize 1) ()).ask 0 1 (.initialSync room)).ask 1 2 (.initialSync other)).shares
    2 3 shortRule 1).ask 3 6 missing

/-- The second sweep is about to end. -/
def visited : Crew Unit :=
  (visits.shares 4 20 shortRule 1).turns server settings (List.replicate 15 0)

theorem reachable_visited : Crew.Reachable server settings 1 visited := by
  have hvisits : Crew.Run server settings (.idle (.ofSize 1) ()) visits :=
    (((run_ask server settings (by decide +kernel) 1 _).trans
      (run_ask server settings (by decide +kernel) 2 _)).trans
      (run_shares server settings (by decide +kernel) 3 shortRule (by decide +kernel))).trans
      (run_ask server settings (by decide +kernel) 6 missing)
  have hsweep : Crew.Run server settings visits (visits.shares 4 20 shortRule 1) :=
    run_shares server settings (by decide +kernel) 20 shortRule (by decide +kernel)
  exact ⟨(), (hvisits.trans hsweep).trans (run_turns ..)⟩

theorem small_room_stays : ∃ w w' r r', visited.pool.workers[0]? = some (some w) ∧
    w.rooms[room]? = some r ∧ r.lastAccess = 6 ∧
    (visited.log 0)[12]? = some (3, .finished (.request 6 missing)
      (.error (.anchorNotFound room "$missing"))) ∧
    Loaded (.error (.anchorNotFound room "$missing") : Except RoomError missing.Reply) ∧
    (visited.turn server settings 0).pool.workers[0]? = some (some w') ∧
    w'.rooms[room]? = some r' ∧ r'.lastAccess = 6 := by
  obtain ⟨htime, hsoon, hsweep⟩ := recency_discipline reachable_visited 0
  have hevents : ((visited.log 0)[2]?, (visited.log 0)[12]?, (visited.log 0).finished,
        (visited.log 0).accesses room) =
      (some (0, .finished (.request 1 (.initialSync missing.room)) (.ok ())),
        some (3, .finished (.request 6 missing) (.error (.anchorNotFound room "$missing"))),
        [⟨0, .request 1 (.initialSync room)⟩, ⟨1, .request 2 (.initialSync other)⟩,
          ⟨2, .sweep 3 shortRule⟩, ⟨3, .request 6 missing⟩], [1, 6]) := by
    cbv
  simp only [Prod.mk.injEq] at hevents
  obtain ⟨hload, hread, hfinished, haccesses⟩ := hevents
  have htimes : (visited.log 0).times = [1, 2, 3, 6] := by
    rw [Log.times_eq, hfinished]
    rfl
  have hrules : ∀ a ∈ (visited.log 0).finished, ∀ now rule, a.task = .sweep now rule →
      5 ≤ rule.ttl := by
    rw [hfinished]
    simp [shortRule]
  have hloaded := hsoon (by rw [htimes]; decide) 2 12 0 3 1 6 5 missing _ hload hread (by decide)
    (by decide) fun k ticket now rule report _ _ hk =>
      hrules ⟨ticket, .sweep now rule⟩ (Log.mem_finished.2 ⟨report, List.mem_of_getElem? hk⟩) now
        rule rfl
  have hlog : (visited.turn server settings 0).log 0 =
      visited.log 0 ++ [(4, .finished (.sweep 20 shortRule) ⟨0, 1, 1, 0⟩)] := by
    cbv
  have hstep : Crew.Step server settings visited (visited.turn server settings 0) := by
    refine (turn_eq_or_step server settings visited 0).resolve_left fun hsame => ?_
    rw [hsame] at hlog
    simp at hlog
  obtain ⟨w, w', hw, hw', -, hkept⟩ := hsweep _ _ _ _ _ hstep hlog
  have hheld : (visited.pool.workers[0]?.join.bind fun w => w.rooms[room]?).isSome = true := by cbv
  have haccesses : (visited.log 0).accesses room = [1, 6] := by cbv
  have hcount : (visited.pool.workers[0]?.join.map fun w =>
      (w.accesses.filter ((6 : Int) ≤ ·.2)).length) = some 1 := by cbv
  rw [hw, Option.join_some, Option.bind_some] at hheld
  rw [hw, Option.join_some, Option.map_some, Option.some.injEq] at hcount
  obtain ⟨r, hr⟩ := Option.isSome_iff_exists.1 hheld
  have hlast := htime w room r hw hr
  rw [haccesses] at hlast
  have hr6 : r.lastAccess = 6 := (Option.some.inj hlast).symm
  obtain ⟨r', hr', htime'⟩ := hkept room r hr (by rw [hr6]; exact Nat.le_of_eq hcount)
  exact ⟨w, w', r, r', hw, hr, hr6, hread, hloaded, hw', hr', htime'.trans hr6⟩

end SmallRoom

end RoomReader
