import Mathlib.Algebra.BigOperators.Group.List.Basic
import Mathlib.Data.List.Nodup
import RoomReader.Proofs.Pool.Ownership
import RoomReader.Proofs.Server.Cached
import RoomReader.Proofs.Transcript

namespace RoomReader

/-!
# What a sweep accounts for

Of the rooms that a worker holds a sweep drops some, and of the others it asks for each once. A room
takes in the answer to its own call and no other, or stays as it is if the call fails. The reports
count what was dropped, what is left and what failed, and so do their sums.
-/

namespace Room

/-- The call by which a room takes in what is new. -/
abbrev forwardCall (r : Room) : Call :=
  .messages r.id r.timeline.forwardToken .forward Timeline.minimumPagination

/-- The room after an answer to this call. -/
def receive (r : Room) : Except ApiError Messages → Room
  | .error _ => r
  | .ok m =>
    { r with timeline := r.timeline.extendForward m, state := Timeline.foldForward r.state m }

theorem forwardPaginate_eq (r : Room) :
    r.forwardPaginate = .ask r.forwardCall fun answer : Except ApiError Messages =>
      .done ((answer.map (·.chunk.length)).mapError (RoomError.ofApi r.id), r.receive answer) := by
  refine congrArg (Exchange.ask _) (funext fun answer => ?_)
  cases answer <;> rfl

end Room

namespace Answered

def failed (a : Answered) : Bool := !a.answer.isOk

def isAbout (room : String) (a : Answered) : Bool := decide (a.call.About room)

end Answered

namespace Worker

variable {w w' : Worker} {rule : SweepRule} {now : Time} {i : Nat} {answers : List Answered}
  {report : SweepReport} {room : String}

/-! ## What is dropped -/

theorem stale_subset (rooms : List (String × Time)) (keepMin : Nat) (cutoff : Time) :
    stale rooms keepMin cutoff ⊆ rooms.map (·.1) := by
  intro room hroom
  obtain ⟨t, hmem, -⟩ := exists_of_mem_stale hroom
  exact List.mem_map_of_mem hmem

theorem nodup_stale {rooms : List (String × Time)} (h : (rooms.map (·.1)).Nodup) (keepMin : Nat)
    (cutoff : Time) : (stale rooms keepMin cutoff).Nodup := by
  have hperm := byAccess_perm rooms
  have hsub : (((byAccess rooms).drop keepMin).filter (·.2 < cutoff)).Sublist (byAccess rooms) :=
    List.filter_sublist.trans (List.drop_sublist ..)
  exact ((hperm.map _).nodup_iff.2 h).sublist (hsub.map _)

theorem map_fst_accesses (w : Worker) : w.accesses.map (·.1) = w.rooms.keys := by
  rw [accesses, List.map_map, ← Std.ExtTreeMap.map_fst_toList_eq_keys]
  rfl

theorem length_add_size_foldl_erase {dropped : List String} {m : StringMap Room}
    (hnodup : dropped.Nodup) (hmem : ∀ room ∈ dropped, room ∈ m) :
    dropped.length + (dropped.foldl (fun m room => m.erase room) m).size = m.size := by
  induction dropped generalizing m with
  | nil => simp
  | cons room dropped ih =>
      obtain ⟨hroom, hdropped⟩ := List.nodup_cons.1 hnodup
      have hheld : room ∈ m := hmem room List.mem_cons_self
      have hpos : m.size ≠ 0 := fun hzero =>
        Std.ExtTreeMap.ne_empty_of_mem hheld (Std.ExtTreeMap.eq_empty_iff_size_eq_zero.2 hzero)
      have hrest : ∀ other ∈ dropped, other ∈ m.erase room := by
        intro other hother
        refine Std.ExtTreeMap.mem_erase.2 ⟨?_, hmem other (List.mem_cons_of_mem _ hother)⟩
        intro hcompare
        obtain rfl := Std.LawfulEqCmp.eq_of_compare hcompare
        exact hroom hother
      have hsize : (m.erase room).size = m.size - 1 := by
        rw [Std.ExtTreeMap.size_erase]
        exact if_pos hheld
      have hcount := ih hdropped hrest
      rw [List.length_cons, List.foldl_cons]
      omega

theorem evictStale_fst_add_size (rule : SweepRule) (now : Time) (w : Worker) :
    (w.evictStale rule now).1 + (w.evictStale rule now).2.rooms.size = w.rooms.size := by
  unfold evictStale
  split
  · exact Nat.zero_add _
  · refine length_add_size_foldl_erase (nodup_stale ?_ ..) fun room hroom => ?_
    · rw [map_fst_accesses]
      exact Std.ExtTreeMap.nodup_keys
    · rw [← Std.ExtTreeMap.mem_keys, ← map_fst_accesses]
      exact stale_subset _ _ _ hroom

/-! ## What is asked for -/

theorem forwardAll_cons_of_none (hr : w.rooms[room]? = none) (rooms : List String) (n : Nat) :
    forwardAll (room :: rooms) (n, w) = forwardAll rooms (n, w) := by
  rw [forwardAll, hr]

theorem forwardAll_cons_of_some {r : Room} (hr : w.rooms[room]? = some r) (rooms : List String)
    (n : Nat) :
    forwardAll (room :: rooms) (n, w) =
      .ask r.forwardCall fun answer : Except ApiError Messages =>
        forwardAll rooms (n + (Answered.failed ⟨r.forwardCall, answer⟩).toNat,
          { w with rooms := w.rooms.insert room (r.receive answer) }) := by
  rw [forwardAll, hr]
  simp only [Room.forwardPaginate_eq]
  refine congrArg (Exchange.ask _) (funext fun answer => ?_)
  cases answer <;> rfl

def asked? (w : Worker) (reply : String → Except ApiError Messages) (room : String) :
    Option Answered :=
  w.rooms[room]?.map fun r : Room => ⟨r.forwardCall, reply room⟩

/-- Every room is asked for once, and takes in the answer to its own call alone. -/
theorem reaches_forwardAll {rooms : List String} {n m : Nat}
    (h : (forwardAll rooms (n, w)).Reaches answers (.done (m, w'))) (hrooms : rooms.Nodup) :
    ∃ reply : String → Except ApiError Messages,
      answers = rooms.filterMap (w.asked? reply) ∧
      m = n + answers.countP Answered.failed ∧ w'.rooms.size = w.rooms.size ∧
      ∀ room : String, w'.rooms[room]? =
        if room ∈ rooms then w.rooms[room]?.map (·.receive (reply room)) else w.rooms[room]? := by
  induction rooms generalizing n w answers with
  | nil =>
      cases h
      exact ⟨fun _ => .error (.decode ""), by simp⟩
  | cons room rooms ih =>
      obtain ⟨hroom, hrooms⟩ := List.nodup_cons.1 hrooms
      cases hr : w.rooms[room]? with
      | none =>
          rw [forwardAll_cons_of_none hr] at h
          obtain ⟨reply, hanswers, hm, hsize, hw'⟩ := ih h hrooms
          refine ⟨reply, ?_, hm, hsize, fun other => ?_⟩
          · rw [hanswers, List.filterMap_cons_none (by rw [asked?, hr]; rfl)]
          · rw [hw']
            by_cases hother : other = room
            · simp [hother, hr, hroom]
            · simp [hother]
      | some r =>
          rw [forwardAll_cons_of_some hr] at h
          cases h with
          | @answer _ _ answer later _ hlater =>
              obtain ⟨reply, hanswers, hm, hsize, hw'⟩ := ih hlater hrooms
              have hsame (other : String) (hother : other ≠ room) :
                  (w.rooms.insert room (r.receive answer))[other]? = w.rooms[other]? := by
                rw [StringMap.getElem?_insert, if_neg (Ne.symm hother)]
              refine ⟨Function.update reply room answer, ?_, ?_, ?_, fun other => ?_⟩
              · rw [List.filterMap_cons_some (by rw [asked?, hr, Function.update_self]; rfl),
                  hanswers]
                refine congrArg _ (List.filterMap_congr fun other hmem => ?_)
                have hother : other ≠ room := fun heq => hroom (heq ▸ hmem)
                rw [asked?, asked?, hsame other hother, Function.update_of_ne hother]
              · rw [hm, List.countP_cons]
                generalize Answered.failed ⟨r.forwardCall, answer⟩ = failed
                cases failed
                · rfl
                · exact Nat.add_right_comm ..
              · rw [hsize, Std.ExtTreeMap.size_insert]
                exact if_pos (mem_rooms_of_getElem? hr)
              · rw [hw']
                by_cases hother : other = room
                · subst hother
                  simp [hroom, hr]
                · simp [hother, hsame other hother]

theorem filter_isAbout_keys (hw : w.Filed) {r : Room} (hr : w.rooms[room]? = some r)
    (reply : String → Except ApiError Messages) :
    (w.rooms.keys.filterMap (w.asked? reply)).filter (Answered.isAbout room) =
      [⟨r.forwardCall, reply room⟩] := by
  have hone : w.rooms.keys.filter (· == room) = [room] := by
    have hmem := Std.ExtTreeMap.mem_keys.2 (mem_rooms_of_getElem? hr)
    rw [List.filter_beq, List.count_eq_one_of_mem Std.ExtTreeMap.nodup_keys hmem]
    rfl
  have hown : ∀ other ∈ w.rooms.keys, (w.asked? reply other).filter (Answered.isAbout room) =
      if (other == room) = true then w.asked? reply other else none := by
    intro other hother
    cases hr' : w.rooms[other]? with
    | none => simp [asked?, hr']
    | some r' =>
        have hid : r'.id = other := hw other r' hr'
        simp [asked?, hr', Option.filter, Answered.isAbout, Call.About, Call.room?, hid]
  calc (w.rooms.keys.filterMap (w.asked? reply)).filter (Answered.isAbout room)
      = w.rooms.keys.filterMap fun other => (w.asked? reply other).filter (Answered.isAbout room) :=
        List.filter_filterMap
    _ = (w.rooms.keys.filter (· == room)).filterMap (w.asked? reply) := by
        rw [List.filterMap_filter]
        exact List.filterMap_congr hown
    _ = [⟨r.forwardCall, reply room⟩] := by
        rw [hone, List.filterMap_cons_some (by rw [asked?, hr]; rfl), List.filterMap_nil]

/-- What a worker's share of a sweep comes to. -/
structure Settled (w w' : Worker) (report : SweepReport) (answers : List Answered) : Prop where
  total : report.evicted + report.remaining = w.rooms.size
  remaining : report.remaining = w'.rooms.size
  calls : answers.length = report.remaining
  failures : report.forwardFailures = answers.countP Answered.failed
  about : ∀ a ∈ answers, ∃ room ∈ w'.rooms, a.call.About room
  received : ∀ (room : String) (r' : Room), w'.rooms[room]? = some r' →
    ∃ r answer, w.rooms[room]? = some r ∧
      answers.filter (Answered.isAbout room) = [⟨r.forwardCall, answer⟩] ∧ r' = r.receive answer

theorem sweep_eq (rule : SweepRule) (now : Time) (i : Nat) (w : Worker) :
    w.sweep rule now i =
      forwardAll (w.evictStale rule now).2.rooms.keys (0, (w.evictStale rule now).2) >>= fun p =>
        .done (⟨i, (w.evictStale rule now).1, p.2.rooms.size, p.1⟩, p.2) := rfl

/-- A sweep drops rooms, and each other room takes in the answer to its own call. -/
theorem reaches_sweep (h : (w.sweep rule now i).Reaches answers (.done (report, w'))) :
    ∃ reply : String → Except ApiError Messages,
      answers = (w.evictStale rule now).2.rooms.keys.filterMap
        ((w.evictStale rule now).2.asked? reply) ∧
      report = ⟨i, (w.evictStale rule now).1, w'.rooms.size, answers.countP Answered.failed⟩ ∧
      w'.rooms.size = (w.evictStale rule now).2.rooms.size ∧
      ∀ room : String, w'.rooms[room]? =
        (w.evictStale rule now).2.rooms[room]?.map (·.receive (reply room)) := by
  rw [sweep_eq] at h
  generalize w.evictStale rule now = dropped at *
  obtain ⟨⟨failures, w₂⟩, xs, ys, rfl, hreaches, h⟩ := Exchange.Reaches.of_bind h
  cases h
  obtain ⟨reply, hanswers, hfailures, hsize, hw'⟩ :=
    reaches_forwardAll hreaches Std.ExtTreeMap.nodup_keys
  rw [Nat.zero_add] at hfailures
  rw [List.append_nil]
  refine ⟨reply, hanswers, by rw [hfailures], hsize, fun room => ?_⟩
  rw [hw']
  split
  · rfl
  · rename_i hnot
    rw [Std.ExtTreeMap.getElem?_eq_none fun hmem => hnot (Std.ExtTreeMap.mem_keys.2 hmem)]
    rfl

theorem settled_of_reaches (hw : w.Filed)
    (h : (w.sweep rule now i).Reaches answers (.done (report, w'))) :
    w.Settled w' report answers := by
  have hfiled := hw.evictStale rule now
  have htotal := evictStale_fst_add_size rule now w
  have hkept := evictStale_eq_none_or_eq rule now w
  obtain ⟨reply, hanswers, rfl, hsize, hw'⟩ := reaches_sweep h
  generalize w.evictStale rule now = dropped at *
  obtain ⟨evicted, w₁⟩ := dropped
  dsimp only at *
  refine ⟨?_, rfl, ?_, rfl, ?_, ?_⟩
  · rw [hsize, htotal]
  · rw [hsize, hanswers, List.length_filterMap_eq_countP, ← Std.ExtTreeMap.length_keys]
    refine List.countP_eq_length.2 fun room hroom => ?_
    obtain ⟨r, hr⟩ := Option.isSome_iff_exists.1
      (Std.ExtTreeMap.mem_iff_isSome_getElem?.1 (Std.ExtTreeMap.mem_keys.1 hroom))
    rw [asked?, hr]
    rfl
  · intro a ha
    rw [hanswers] at ha
    obtain ⟨room, hroom, hanswer⟩ := List.mem_filterMap.1 ha
    obtain ⟨r, hr, rfl⟩ := Option.map_eq_some_iff.1 hanswer
    refine ⟨room, ?_, congrArg some (hfiled room r hr)⟩
    refine mem_rooms_of_getElem? (r := r.receive (reply room)) ?_
    rw [hw', hr]
    rfl
  · intro room r' hr'
    rw [hw'] at hr'
    obtain ⟨r, hr, rfl⟩ := Option.map_eq_some_iff.1 hr'
    refine ⟨r, reply room, ?_, ?_, rfl⟩
    · rcases hkept room with hnone | heq
      · rw [hnone] at hr
        cases hr
      · rw [← heq, hr]
    · rw [hanswers]
      exact filter_isAbout_keys hfiled hr reply

end Worker

/-! ## All workers -/

theorem SweepSummary.ofReports_eq (reports : List SweepReport) :
    ofReports reports =
      { workers := reports.length
        evicted := (reports.map (·.evicted)).sum
        remaining := (reports.map (·.remaining)).sum
        forwardFailures := (reports.map (·.forwardFailures)).sum } := by
  induction reports with
  | nil => rfl
  | cons report reports ih =>
      rw [ofReports, ih]
      rfl

namespace Pool

/-- The number of cached rooms. -/
def numCached (p : Pool) : Nat := (p.workers.map fun w => w.elim 0 (·.rooms.size)).sum

/-- Rooms are held by their owners alone, and under their own ids. -/
def Tidy (p : Pool) : Prop :=
  ∀ (i : Nat) (w : Worker) (room : String) (r : Room), p.workers[i]? = some (some w) →
    w.rooms[room]? = some r → p.workerIndex room = i ∧ r.id = room

structure Share where
  before : Worker
  after : Worker
  report : SweepReport
  answers : List Answered
  settled : before.Settled after report answers

/-- What a sweep of a pool comes to. -/
structure Accounts (p p' : Pool) (summary : SweepSummary) (answers : List Answered) : Prop where
  workers : summary.workers = p.numWorkers
  total : summary.evicted + summary.remaining = p.numCached
  remaining : summary.remaining = p'.numCached
  calls : answers.length = summary.remaining
  failures : summary.forwardFailures = answers.countP Answered.failed
  about : ∀ a ∈ answers, ∃ room r', p'.cached? room = some r' ∧ a.call.About room
  received : ∀ room r', p'.cached? room = some r' →
    ∃ r answer, p.cached? room = some r ∧
      answers.filter (Answered.isAbout room) = [⟨r.forwardCall, answer⟩] ∧ r' = r.receive answer

variable {σ : Type} {hs : Homeserver σ} {p : Pool} {rule : SweepRule} {now : Time}

theorem exists_shares (hback : hs.ComesBack) (rule : SweepRule) (now : Time) (i : Nat)
    {workers : List (Option Worker)} (halive : none ∉ workers)
    (hfiled : ∀ w, some w ∈ workers → w.Filed) (s : σ × List Answered) :
    ∃ (shares : List Share) (s' : σ × List Answered),
      workers = shares.map (fun a => some a.before) ∧
      sweepFrom hs.recorded rule now i workers s =
        (shares.map (·.report), shares.map (fun a => some a.after), s') ∧
      s'.2 = s.2 ++ shares.flatMap (·.answers) := by
  induction workers generalizing i s with
  | nil => exact ⟨[], s, rfl, rfl, (List.append_nil _).symm⟩
  | cons w workers ih =>
      cases w with
      | none => exact absurd List.mem_cons_self halive
      | some w =>
          obtain ⟨⟨report, w'⟩, s₁, hrun⟩ :=
            Exchange.exists_run hback.recorded (w.sweep rule now i) s
          obtain ⟨answers, htranscript, hreaches⟩ := Exchange.exists_reaches_of_run hrun
          have hsettled := Worker.settled_of_reaches (hfiled w List.mem_cons_self) hreaches
          obtain ⟨shares, s', rfl, hsweep, htranscript'⟩ := ih (i + 1)
            (fun h => halive (List.mem_cons_of_mem _ h))
            (fun v hv => hfiled v (List.mem_cons_of_mem _ hv)) s₁
          refine ⟨⟨w, w', report, answers, hsettled⟩ :: shares, s', rfl, ?_, ?_⟩
          · simp only [sweepFrom, hrun, hsweep, List.map_cons]
          · rw [htranscript', htranscript, List.flatMap_cons, List.append_assoc]

/-- A list of lists in which one alone is not empty. -/
theorem flatMap_eq_of_forall_ne {α β : Type} {l : List α} {f : α → List β} {k : Nat} {a : α}
    (ha : l[k]? = some a) (h : ∀ j b, l[j]? = some b → j ≠ k → f b = []) :
    l.flatMap f = f a := by
  obtain ⟨hk, rfl⟩ := List.getElem?_eq_some_iff.1 ha
  have hbefore : (l.take k).flatMap f = [] := by
    refine List.flatMap_eq_nil_iff.2 fun b hb => ?_
    obtain ⟨j, hj, rfl⟩ := List.mem_take_iff_getElem.1 hb
    exact h j _ (List.getElem?_eq_getElem (by omega)) (by omega)
  have hafter : (l.drop (k + 1)).flatMap f = [] := by
    refine List.flatMap_eq_nil_iff.2 fun b hb => ?_
    obtain ⟨j, hj, rfl⟩ := List.mem_drop_iff_getElem.1 hb
    exact h (k + 1 + j) _ (List.getElem?_eq_getElem _) (by omega)
  conv_lhs => rw [← List.take_append_drop k l, List.drop_eq_getElem_cons hk]
  rw [List.flatMap_append, List.flatMap_cons, hbefore, hafter, List.append_nil, List.nil_append]

theorem accounts_of_shares (htidy : p.Tidy) {shares : List Share}
    (hbefore : p.workers = shares.map fun a => some a.before) :
    p.Accounts ⟨shares.map fun a => some a.after⟩ (.ofReports (shares.map (·.report)))
      (shares.flatMap (·.answers)) := by
  have hindex (room : String) :
      (Pool.mk (shares.map fun a => some a.after)).workerIndex room = p.workerIndex room := by
    rw [workerIndex, workerIndex, numWorkers, numWorkers, hbefore, List.length_map,
      List.length_map]
  have hget {k : Nat} {a : Share} (ha : shares[k]? = some a) :
      p.workers[k]? = some (some a.before) := by
    rw [hbefore, List.getElem?_map, ha]
    rfl
  -- What a share asks for was held by its worker, so it is the worker that owns it.
  have howner {k : Nat} {a : Share} (ha : shares[k]? = some a) {room : String} {r' : Room}
      (hr' : a.after.rooms[room]? = some r') : p.workerIndex room = k := by
    obtain ⟨r, -, hr, -⟩ := a.settled.received room r' hr'
    exact (htidy k _ room r (hget ha) hr).1
  rw [SweepSummary.ofReports_eq]
  refine ⟨?_, ?_, ?_, ?_, ?_, ?_, ?_⟩
  · rw [numWorkers, hbefore, List.length_map, List.length_map]
  · rw [numCached, hbefore]
    simp only [List.map_map, ← List.sum_map_add]
    exact congrArg List.sum (List.map_congr_left fun a _ => a.settled.total)
  · simp only [numCached, List.map_map]
    exact congrArg List.sum (List.map_congr_left fun a _ => a.settled.remaining)
  · simp only [List.length_flatMap, List.map_map]
    exact congrArg List.sum (List.map_congr_left fun a _ => a.settled.calls)
  · simp only [List.countP_flatMap, List.map_map]
    exact congrArg List.sum (List.map_congr_left fun a _ => a.settled.failures)
  · intro a ha
    obtain ⟨share, hshare, ha⟩ := List.mem_flatMap.1 ha
    obtain ⟨k, hk⟩ := List.mem_iff_getElem?.1 hshare
    obtain ⟨room, hroom, habout⟩ := share.settled.about a ha
    obtain ⟨r', hr'⟩ := Option.isSome_iff_exists.1 (Std.ExtTreeMap.mem_iff_isSome_getElem?.1 hroom)
    refine ⟨room, r', ?_, habout⟩
    rw [cached?, hindex, howner hk hr', List.getElem?_map, hk]
    exact hr'
  · intro room r' hr'
    rw [cached?, hindex] at hr'
    obtain ⟨w', hw', hr'⟩ := Option.bind_eq_some_iff.1 hr'
    rw [List.getElem?_map] at hw'
    obtain ⟨share, hshare, hafter⟩ := Option.map_eq_some_iff.1 (Option.join_eq_some_iff.1 hw')
    cases hafter
    obtain ⟨r, answer, hr, hanswers, hreceive⟩ := share.settled.received room r' hr'
    refine ⟨r, answer, ?_, ?_, hreceive⟩
    · rw [cached?, hget hshare]
      exact hr
    · rw [List.filter_flatMap, ← hanswers]
      refine flatMap_eq_of_forall_ne hshare fun j other hother hj => ?_
      refine List.filter_eq_nil_iff.2 fun a ha habout => ?_
      obtain ⟨room', hroom', habout'⟩ := other.settled.about a ha
      obtain rfl : room' = room :=
        Option.some.inj (habout'.symm.trans (of_decide_eq_true habout))
      obtain ⟨r₂, hr₂⟩ := Option.isSome_iff_exists.1
        (Std.ExtTreeMap.mem_iff_isSome_getElem?.1 hroom')
      exact hj (howner hother hr₂).symm

theorem sweep_accounts_of_tidy (hback : hs.ComesBack) (htidy : p.Tidy) (halive : none ∉ p.workers)
    (rule : SweepRule) (now : Time) (s : σ × List Answered) :
    ∃ reports p' s' answers, p.sweep hs.recorded rule now s = (reports, p', s') ∧
      s'.2 = s.2 ++ answers ∧ p.Accounts p' (.ofReports reports) answers := by
  have hfiled : ∀ w, some w ∈ p.workers → w.Filed := by
    intro w hw room r hr
    obtain ⟨i, hi⟩ := List.mem_iff_getElem?.1 hw
    exact (htidy i w room r hi hr).2
  obtain ⟨shares, s', hbefore, hsweep, htranscript⟩ :=
    exists_shares hback rule now 0 halive hfiled s
  exact ⟨_, _, s', _, by rw [sweep, hsweep], htranscript, accounts_of_shares htidy hbefore⟩

end Pool

namespace Crew

variable {σ τ : Type} {hs : Homeserver σ} {hs' : Homeserver τ} {settings : RoomSettings}
  {numWorkers : Nat} {x : Crew σ}

theorem Reachable.tidy (hx : Reachable hs settings numWorkers x) : x.pool.Tidy := by
  intro i w room r hw hr
  have hlabours := (hx.inOrder.labours hw).1
  exact ⟨hx.inOrder.workerIndex_eq_of_asks
    (hlabours.asks_of_mem_rooms (Worker.mem_rooms_of_getElem? hr)), hlabours.filed room r hr⟩

/-- A sweep of a pool whose workers are all alive, on a homeserver that answers or fails each call.
The summary counts every worker, every room that was dropped or is left, and every call that failed;
each room that is left is asked for by one call, and becomes what the answer to it makes of it; and
no other room is asked for. -/
theorem sweep_accounts (hx : Reachable hs settings numWorkers x)
    (halive : ∀ i < x.pool.numWorkers, x.alive i = true) (hback : hs'.ComesBack)
    (rule : SweepRule) (now : Time) (s : τ) :
    ∃ reports p s' answers,
      x.pool.sweep hs'.recorded rule now (s, []) = (reports, p, s', answers) ∧
        x.pool.Accounts p (.ofReports reports) answers := by
  have hnone : none ∉ x.pool.workers := by
    intro hmem
    obtain ⟨i, hi, hdead⟩ := List.mem_iff_getElem.1 hmem
    obtain ⟨w, hw⟩ := exists_of_alive (halive i hi)
    rw [List.getElem?_eq_getElem hi, hdead] at hw
    cases hw
  obtain ⟨reports, p, s', answers, hsweep, htranscript, haccounts⟩ :=
    Pool.sweep_accounts_of_tidy hback hx.tidy hnone rule now (s, [])
  rw [List.nil_append] at htranscript
  exact ⟨reports, p, s'.1, answers, htranscript ▸ hsweep, haccounts⟩

end Crew

/-! Of two rooms, each with a worker of its own, one is dropped and the other cannot be brought up
to date. -/

namespace SmallRoom

open Crew

def bothLoaded : Crew Unit :=
  (((Crew.idle (.ofSize 2) ()).ask 0 1 (.initialSync room)).ask 1 15 (.initialSync other)).turns
    server settings [0, 0, 0, 1, 1, 1]

def tenMilliseconds : SweepRule := { ttl := 10, keepMin := 0 }

theorem bothLoaded_accounts : ∃ reports p s' answers,
    bothLoaded.pool.sweep firstFails.recorded tenMilliseconds 20 (false, []) =
      (reports, p, s', answers) ∧
    SweepSummary.ofReports reports = ⟨2, 1, 1, 1⟩ ∧
    bothLoaded.pool.Accounts p (.ofReports reports) answers := by
  have hreachable : Crew.Reachable server settings 2 bothLoaded :=
    ⟨(), ((run_ask server settings (by decide +kernel) 1 _).trans
      (run_ask server settings (by decide +kernel) 15 _)).trans (run_turns ..)⟩
  have hback : firstFails.ComesBack := by
    intro c s
    cases s <;> exact ⟨_, _, rfl⟩
  obtain ⟨reports, p, s', answers, hsweep, haccounts⟩ :=
    sweep_accounts hreachable (by decide +kernel) hback tenMilliseconds 20 false
  have hreports : SweepSummary.ofReports
      (bothLoaded.pool.sweep firstFails.recorded tenMilliseconds 20 (false, [])).1 =
      ⟨2, 1, 1, 1⟩ := by
    cbv
  rw [hsweep] at hreports
  exact ⟨reports, p, s', answers, hsweep, hreports, haccounts⟩

end SmallRoom

end RoomReader
