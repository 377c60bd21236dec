import RoomReader.Proofs.Pool.Accounting

namespace RoomReader

/-!
# What an eviction takes

An eviction takes the rooms that were accessed longest ago, as many as there are stale ones, but no
more than there are above the number that is always kept. It does not matter in which order the
rooms are gone through; of rooms that were accessed at one time any may be taken.
-/

/-- The point in time before which rooms are stale can be stated. -/
def SweepRule.OnRecord (rule : SweepRule) (now : Time) : Prop :=
  firstTime ≤ now - rule.ttl ∧ now - rule.ttl ≤ lastTime

instance (rule : SweepRule) (now : Time) : Decidable (rule.OnRecord now) :=
  inferInstanceAs (Decidable (_ ∧ _))

theorem SweepRule.cutoff?_of_onRecord {rule : SweepRule} {now : Time} (h : rule.OnRecord now) :
    rule.cutoff? now = some (now - rule.ttl) := if_pos h

theorem SweepRule.cutoff?_of_not_onRecord {rule : SweepRule} {now : Time}
    (h : ¬ rule.OnRecord now) : rule.cutoff? now = none := if_neg h

namespace Worker

/-- Drops stale rooms and gives their number, with the rooms gone through in this order. -/
def evictListed (rooms : List (String × Time)) (rule : SweepRule) (now : Time) (w : Worker) :
    Nat × Worker :=
  match rule.cutoff? now with
  | none => (0, w)
  | some cutoff =>
    let dropped := stale rooms rule.keepMin cutoff
    (dropped.length, { w with rooms := dropped.foldl (fun m room => m.erase room) w.rooms })

theorem evictStale_eq_evictListed (rule : SweepRule) (now : Time) (w : Worker) :
    w.evictStale rule now = w.evictListed w.accesses rule now := rfl

/-- How many rooms were last accessed before a point in time. -/
def numStale (w : Worker) (cutoff : Time) : Nat :=
  (w.rooms.toList.filter (·.2.lastAccess < cutoff)).length

/-- What an eviction comes to. -/
structure Evicts (rule : SweepRule) (cutoff : Time) (w : Worker) (p : Nat × Worker) : Prop where
  count : p.1 = min (w.numStale cutoff) (w.rooms.size - rule.keepMin)
  size : p.1 + p.2.rooms.size = w.rooms.size
  kept : ∀ (room : String) r, p.2.rooms[room]? = some r → w.rooms[room]? = some r
  stale : ∀ (room : String) r, w.rooms[room]? = some r → p.2.rooms[room]? = none →
    r.lastAccess < cutoff ∧
      ∀ (other : String) r', p.2.rooms[other]? = some r' → r.lastAccess ≤ r'.lastAccess
  floor : min w.rooms.size rule.keepMin ≤ p.2.rooms.size

variable {rooms : List (String × Time)} {keepMin : Nat} {cutoff : Time}

/-- Of rooms in the order of their last access, those behind the first `keepMin` that are stale. -/
theorem length_filter_drop (h : rooms.Pairwise fun a b => b.2 ≤ a.2) :
    ((rooms.drop keepMin).filter (·.2 < cutoff)).length =
      min (rooms.countP (·.2 < cutoff)) (rooms.length - keepMin) := by
  induction rooms generalizing keepMin with
  | nil => simp
  | cons a rooms ih =>
      obtain ⟨ha, hrooms⟩ := List.pairwise_cons.1 h
      cases keepMin with
      | zero =>
          rw [List.drop_zero, ← List.countP_eq_length_filter, Nat.sub_zero,
            Nat.min_eq_left List.countP_le_length]
      | succ k =>
          rw [List.drop_succ_cons, ih hrooms, List.length_cons, Nat.add_sub_add_right]
          by_cases hstale : a.2 < cutoff
          · -- All that follow are stale as well.
            have hall : rooms.countP (·.2 < cutoff) = rooms.length := by
              refine List.countP_eq_length.2 fun b hb => ?_
              exact decide_eq_true (Int.lt_of_le_of_lt (ha b hb) hstale)
            rw [List.countP_cons, if_pos (decide_eq_true hstale), hall]
            omega
          · rw [List.countP_cons, if_neg (by simpa using hstale), Nat.add_zero]

theorem length_stale (rooms : List (String × Time)) (keepMin : Nat) (cutoff : Time) :
    (stale rooms keepMin cutoff).length =
      min (rooms.countP (·.2 < cutoff)) (rooms.length - keepMin) := by
  rw [stale, List.length_map, length_filter_drop (pairwise_byAccess rooms),
    (byAccess_perm rooms).countP_eq, (byAccess_perm rooms).length_eq]

theorem lt_of_mem_stale {room : String} {t : Time} (hnodup : (rooms.map (·.1)).Nodup)
    (hroom : room ∈ stale rooms keepMin cutoff) (ht : (room, t) ∈ rooms) :
    (room, t) ∈ (byAccess rooms).drop keepMin ∧ t < cutoff := by
  obtain ⟨⟨_, u⟩, hmem, rfl⟩ := List.mem_map.1 hroom
  obtain ⟨hdrop, hu⟩ := List.mem_filter.1 hmem
  have hrooms := (byAccess_perm rooms).mem_iff.1 (List.mem_of_mem_drop hdrop)
  obtain ⟨-, rfl⟩ := Prod.mk.inj (List.inj_on_of_nodup_map hnodup ht hrooms rfl)
  exact ⟨hdrop, of_decide_eq_true hu⟩

/-- What is left was accessed as lately as what is dropped. -/
theorem le_of_mem_stale {room other : String} {t t' : Time} (hnodup : (rooms.map (·.1)).Nodup)
    (hroom : room ∈ stale rooms keepMin cutoff) (ht : (room, t) ∈ rooms)
    (hother : other ∉ stale rooms keepMin cutoff) (ht' : (other, t') ∈ rooms) : t ≤ t' := by
  obtain ⟨hdrop, hstale⟩ := lt_of_mem_stale hnodup hroom ht
  have hsorted := pairwise_byAccess rooms
  have hmem := (byAccess_perm rooms).mem_iff.2 ht'
  rw [← List.take_append_drop keepMin (byAccess rooms)] at hsorted hmem
  rcases List.mem_append.1 hmem with htaken | hleft
  · exact (List.pairwise_append.1 hsorted).2.2 _ htaken _ hdrop
  · -- Among those behind the first, only one that is not stale is left.
    have hlate : ¬ t' < cutoff := fun hlt =>
      hother (List.mem_map_of_mem (List.mem_filter.2 ⟨hleft, decide_eq_true hlt⟩))
    exact Int.le_trans (Int.le_of_lt hstale) (Int.not_lt.1 hlate)

/-- Either all stale rooms are dropped, or no more are left than are kept in any case. -/
theorem mem_stale_or_length_le (rooms : List (String × Time)) (keepMin : Nat) (cutoff : Time) :
    (∀ room t, (room, t) ∈ rooms → t < cutoff → room ∈ stale rooms keepMin cutoff) ∨
      rooms.length ≤ keepMin + (stale rooms keepMin cutoff).length := by
  rcases Nat.le_total (rooms.countP (·.2 < cutoff)) (rooms.length - keepMin) with hle | hle
  · left
    have hlength : (((byAccess rooms).drop keepMin).filter (·.2 < cutoff)).length =
        ((byAccess rooms).filter (·.2 < cutoff)).length := by
      rw [length_filter_drop (pairwise_byAccess rooms), ← List.countP_eq_length_filter,
        (byAccess_perm rooms).countP_eq, (byAccess_perm rooms).length_eq, Nat.min_eq_left hle]
    have hsame := ((List.drop_sublist keepMin (byAccess rooms)).filter _).eq_of_length hlength
    intro room t ht hstale
    have hmem := (byAccess_perm rooms).mem_iff.2 ht
    rw [stale, hsame]
    exact List.mem_map_of_mem (List.mem_filter.2 ⟨hmem, decide_eq_true hstale⟩)
  · right
    rw [length_stale, Nat.min_eq_right hle]
    omega

section

variable {rule : SweepRule} {now : Time} {w : Worker} {again : List (String × Time)}

theorem nodup_of_perm_accesses (h : rooms.Perm w.accesses) : (rooms.map (·.1)).Nodup := by
  rw [(h.map _).nodup_iff, map_fst_accesses]
  exact Std.ExtTreeMap.nodup_keys

theorem length_accesses (w : Worker) : w.accesses.length = w.rooms.size := by
  rw [accesses, List.length_map, Std.ExtTreeMap.length_toList]

theorem countP_accesses (w : Worker) (cutoff : Time) :
    w.accesses.countP (·.2 < cutoff) = w.numStale cutoff := by
  rw [accesses, List.countP_map, numStale, List.countP_eq_length_filter]
  rfl

theorem fst_evictListed (h : rule.OnRecord now) :
    (w.evictListed rooms rule now).1 =
      (stale rooms rule.keepMin (now - rule.ttl)).length := by
  rw [evictListed, SweepRule.cutoff?_of_onRecord h]

theorem rooms_evictListed (h : rule.OnRecord now) :
    (w.evictListed rooms rule now).2.rooms =
      (stale rooms rule.keepMin (now - rule.ttl)).foldl (fun m room => m.erase room) w.rooms := by
  rw [evictListed, SweepRule.cutoff?_of_onRecord h]

theorem getElem?_evictListed (h : rule.OnRecord now) (room : String) :
    (w.evictListed rooms rule now).2.rooms[room]? =
      if room ∈ stale rooms rule.keepMin (now - rule.ttl) then none else w.rooms[room]? := by
  rw [rooms_evictListed h]
  exact getElem?_foldl_erase ..

theorem evicts_evictListed (h : rule.OnRecord now) (hrooms : rooms.Perm w.accesses) :
    Evicts rule (now - rule.ttl) w (w.evictListed rooms rule now) := by
  have hcount : (w.evictListed rooms rule now).1 =
      min (w.numStale (now - rule.ttl)) (w.rooms.size - rule.keepMin) := by
    rw [fst_evictListed h, length_stale, hrooms.countP_eq, countP_accesses,
      hrooms.length_eq, length_accesses]
  have hsize : (w.evictListed rooms rule now).1 + (w.evictListed rooms rule now).2.rooms.size =
      w.rooms.size := by
    rw [fst_evictListed h, rooms_evictListed h]
    refine length_add_size_foldl_erase (nodup_stale (nodup_of_perm_accesses hrooms) ..) ?_
    intro room hroom
    have hmem := stale_subset _ _ _ hroom
    rwa [(hrooms.map _).mem_iff, map_fst_accesses, Std.ExtTreeMap.mem_keys] at hmem
  have hentry {room : String} {r : Room} (hr : w.rooms[room]? = some r) :
      (room, r.lastAccess) ∈ rooms := hrooms.mem_iff.2 (mem_accesses.2 ⟨r, hr, rfl⟩)
  refine ⟨hcount, hsize, fun room r hr => ?_, fun room r hr hdropped => ?_, ?_⟩
  · rw [getElem?_evictListed h] at hr
    exact (Option.ite_none_left_eq_some.1 hr).2
  · rw [getElem?_evictListed h] at hdropped
    split at hdropped
    · rename_i hroom
      have hnodup := nodup_of_perm_accesses hrooms
      refine ⟨(lt_of_mem_stale hnodup hroom (hentry hr)).2, fun other r' hr' => ?_⟩
      rw [getElem?_evictListed h] at hr'
      obtain ⟨hother, hr'⟩ := Option.ite_none_left_eq_some.1 hr'
      exact le_of_mem_stale hnodup hroom (hentry hr) hother (hentry hr')
    · rw [hr] at hdropped
      cases hdropped
  · omega

/-- What an eviction leaves a second one leaves too. -/
theorem evictListed_evictListed (h : rule.OnRecord now) (hrooms : rooms.Perm w.accesses)
    (hagain : again.Perm (w.evictListed rooms rule now).2.accesses) :
    (w.evictListed rooms rule now).2.evictListed again rule now =
      (0, (w.evictListed rooms rule now).2) := by
  have hnil : stale again rule.keepMin (now - rule.ttl) = [] := by
    rcases mem_stale_or_length_le rooms rule.keepMin (now - rule.ttl) with hall | hfew
    · refine List.eq_nil_iff_forall_not_mem.2 fun room hroom => ?_
      obtain ⟨t, ht, hstale, -⟩ := exists_of_mem_stale hroom
      obtain ⟨r, hr, rfl⟩ := mem_accesses.1 (hagain.mem_iff.1 ht)
      rw [getElem?_evictListed h] at hr
      obtain ⟨hleft, hr⟩ := Option.ite_none_left_eq_some.1 hr
      exact hleft (hall _ _ (hrooms.mem_iff.2 (mem_accesses.2 ⟨r, hr, rfl⟩)) hstale)
    · have hsize := (evicts_evictListed h hrooms).size
      rw [fst_evictListed h] at hsize
      rw [hrooms.length_eq, length_accesses] at hfew
      refine List.length_eq_zero_iff.1 ?_
      rw [length_stale, hagain.length_eq, length_accesses]
      omega
  rw [evictListed, SweepRule.cutoff?_of_onRecord h]
  dsimp only
  rw [hnil]
  rfl

end

/-- In whatever order its rooms are gone through, an eviction drops the stale rooms that were
accessed longest ago, all of them or as many as there are above the number that is kept. Nothing is
left for a second one, and nothing is dropped at all if the point in time is not on record. -/
theorem eviction_takes_stalest (w : Worker) (rule : SweepRule) (now : Time) :
    w.evictStale rule now = w.evictListed w.accesses rule now ∧
      ∀ rooms, rooms.Perm w.accesses →
        (¬ rule.OnRecord now → w.evictListed rooms rule now = (0, w)) ∧
        (rule.OnRecord now →
          Evicts rule (now - rule.ttl) w (w.evictListed rooms rule now) ∧
          ∀ again, again.Perm (w.evictListed rooms rule now).2.accesses →
            (w.evictListed rooms rule now).2.evictListed again rule now =
              (0, (w.evictListed rooms rule now).2)) := by
  refine ⟨evictStale_eq_evictListed rule now w, fun rooms hrooms => ⟨fun h => ?_, fun h => ?_⟩⟩
  · rw [evictListed, SweepRule.cutoff?_of_not_onRecord h]
  · exact ⟨evicts_evictListed h hrooms, fun _ => evictListed_evictListed h hrooms⟩

end Worker

/-! Of four rooms three are stale and three are kept in any case. Two were accessed at one time. -/

namespace SmallWorker

open Worker

def accessed (lastAccess : Time) : Room := ⟨"", {}, {}, lastAccess⟩

def worker : Worker :=
  { rooms := .ofEntries
      [("!a", accessed 0), ("!b", accessed 0), ("!c", accessed 5), ("!d", accessed 100)] }

def rule : SweepRule := { ttl := 10, keepMin := 3 }

def endless : SweepRule := { ttl := SweepRule.maxTtl, keepMin := 0 }

/-- Which of the two leaves is up to the order in which they come. -/
theorem either_of_two_leaves :
    rule.OnRecord 20 ∧ worker.accesses.reverse.Perm worker.accesses ∧ worker.numStale 10 = 3 ∧
      Evicts rule 10 worker (worker.evictListed worker.accesses rule 20) ∧
      (worker.evictListed worker.accesses rule 20).2.rooms.keys = ["!a", "!c", "!d"] ∧
      Evicts rule 10 worker (worker.evictListed worker.accesses.reverse rule 20) ∧
      (worker.evictListed worker.accesses.reverse rule 20).2.rooms.keys = ["!b", "!c", "!d"] ∧
      (worker.evictListed worker.accesses.reverse rule 20).2.evictStale rule 20 =
        (0, (worker.evictListed worker.accesses.reverse rule 20).2) ∧
      ¬ endless.OnRecord 20 ∧ worker.evictListed worker.accesses endless 20 = (0, worker) := by
  have honRecord : rule.OnRecord 20 := by decide
  have hendless : ¬ endless.OnRecord 20 := by decide
  have hreverse : worker.accesses.reverse.Perm worker.accesses := List.reverse_perm _
  obtain ⟨-, hlisted⟩ := eviction_takes_stalest worker rule 20
  obtain ⟨hevicts, -⟩ := (hlisted _ (.refl _)).2 honRecord
  obtain ⟨hevicts', hagain⟩ := (hlisted _ hreverse).2 honRecord
  obtain ⟨-, hkept⟩ := eviction_takes_stalest worker endless 20
  refine ⟨honRecord, hreverse, by cbv, hevicts, by cbv, hevicts', by cbv, ?_, hendless, ?_⟩
  · exact hagain _ (.refl _)
  · exact (hkept _ (.refl _)).1 hendless

end SmallWorker

end RoomReader
