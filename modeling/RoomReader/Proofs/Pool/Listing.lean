import Mathlib
import RoomReader.Proofs.Pagination
import RoomReader.Proofs.Pool.Crew
import RoomReader.Proofs.Pool.Independence
import RoomReader.Proofs.State.Replies
import RoomReader.Proofs.State.Roster

namespace RoomReader

/-!
# Lists read page by page

The rooms of a worker are always derived from their events, so no user and no server is listed
twice. Whoever reads the pages of a list one after another, while the state of the room stays as it
is, reads the list as it is given at once, in pages that are full up to the last one.
-/

/-! ## The rooms of a worker are derived -/

/-- The state comes from events and has everything derived. -/
def Room.Derived (r : Room) : Prop := ∃ events, r.state.Derives events

theorem Room.Derived.access {r : Room} (hr : r.Derived) (now : Time) : (r.access now).Derived := hr

theorem Room.derived_forwardPaginate {r : Room} (hr : r.Derived) :
    r.forwardPaginate.Within (fun _ => True) fun p => p.2.Derived := by
  obtain ⟨events, hevents⟩ := hr
  refine .ask trivial fun answer => ?_
  cases answer with
  | error e => exact .done ⟨events, hevents⟩
  | ok m => exact .done ⟨_, hevents.foldForward m⟩

namespace Worker

variable {w : Worker} {settings : RoomSettings} {now : Time}

def Derived (w : Worker) : Prop := ∀ (room : String) r, w.rooms[room]? = some r → r.Derived

theorem Derived.insert (h : w.Derived) {r : Room} (hr : r.Derived) (room : String) :
    Derived { w with rooms := w.rooms.insert room r } := by
  intro other r' hr'
  rw [StringMap.getElem?_insert] at hr'
  split at hr'
  · cases hr'
    exact hr
  · exact h other r' hr'

theorem Derived.withRoom (h : w.Derived) {α : Type} (now : Time) (room : String)
    (view : Room → α) : (w.withRoom now room view).2.Derived := by
  unfold Worker.withRoom
  split
  · exact h
  · rename_i r hr
    exact h.insert ((h room r hr).access now) room

theorem Derived.memberInfo (h : w.Derived) (room user : String) :
    (w.memberInfo settings now room user).2.Derived := by
  have hview := h.withRoom now room (memberReply? settings user)
  unfold Worker.memberInfo
  split <;> simp_all only

theorem derived_handle (h : w.Derived) (job : Job) :
    (w.handle settings now job).Within (fun _ => True) fun p => p.2.Derived := by
  cases job with
  | initialSync room =>
      simp only [handle, initialSync]
      split
      · rename_i r hr
        exact .done (h.insert ((h room r hr).access now) room)
      · refine .ask trivial fun answer => ?_
        cases answer with
        | error e => exact .done h
        | ok sync => exact .done (h.insert ⟨_, RoomState.derives_ofSync room now sync⟩ room)
  | eventsPage room anchor offset pageSize =>
      simp only [handle, eventsPage]
      split
      · exact .done h
      · rename_i r hr
        obtain ⟨events, hevents⟩ := h room r hr
        refine (within_getPage_state now anchor offset pageSize).bind fun p hp => ?_
        exact .done (h.insert ⟨events, hp ▸ hevents⟩ room)
  | members room page pageSize => exact .done (h.withRoom now room _)
  | servers room page pageSize => exact .done (h.withRoom now room _)
  | aliases room page pageSize => exact .done (h.withRoom now room _)
  | memberInfo room user => exact .done (h.memberInfo room user)
  | powerLevels room => exact .done (h.withRoom now room _)

theorem derived_forwardAll (rooms : List String) (failures : Nat) (h : w.Derived) :
    (forwardAll rooms (failures, w)).Within (fun _ => True) fun p => p.2.Derived := by
  induction rooms generalizing failures w with
  | nil => exact .done h
  | cons room rooms ih =>
      unfold forwardAll
      split
      · exact ih failures h
      · rename_i r hr
        exact (Room.derived_forwardPaginate (h room r hr)).bind fun p hp =>
          ih _ (h.insert hp room)

theorem derived_sweep (rule : SweepRule) (i : Nat) (h : w.Derived) :
    (w.sweep rule now i).Within (fun _ => True) fun p => p.2.Derived := by
  have hleft : (w.evictStale rule now).2.Derived := by
    intro room r hr
    rcases evictStale_eq_none_or_eq rule now w room with hnone | hsame
    · rw [hnone] at hr
      cases hr
    · exact h room r (hsame ▸ hr)
  exact (derived_forwardAll _ 0 hleft).bind fun p hp => .done hp

end Worker

theorem Pool.Labours.derived {settings : RoomSettings} {i : Nat} {log : Log} {w : Worker}
    {u : Option (Nat × Underway)} (h : Labours settings i log w u) : w.Derived := by
  refine (h.invariant (I := Worker.Derived) (P := fun _ _ _ => True)
    (Q := fun _ _ p => p.2.Derived) ?_ ?_ fun _ _ _ _ hp => hp).1
  · intro room r hr
    simp at hr
  · intro w hw task
    cases task with
    | request now job => exact Worker.derived_handle hw job
    | sweep now rule => exact Worker.derived_sweep rule i hw

/-! ## The lists of a room -/

inductive Listing where
  | members
  | servers
  | aliases

namespace Listing

abbrev Entry : Listing → Type
  | members => Member
  | servers => ServerUsers
  | aliases => ServerAliases

def job (room : String) (page pageSize : Nat) : Listing → Job
  | members => .members room page pageSize
  | servers => .servers room page pageSize
  | aliases => .aliases room page pageSize

def reply {room : String} {page pageSize : Nat} :
    (k : Listing) → ListReply k.Entry → (k.job room page pageSize).Reply
  | members, reply => reply
  | servers, reply => reply
  | aliases, reply => reply

def all (s : RoomState) : (k : Listing) → List k.Entry
  | members => s.members
  | servers => s.servers
  | aliases => s.aliases

/-- Whom an entry is about: a user or a server. -/
def key : (k : Listing) → k.Entry → String
  | members => Member.userId
  | servers => ServerUsers.serverName
  | aliases => ServerAliases.serverName

/-- The number of entries that a page about the room is headed with. -/
def total? (info : RoomInfo) : Listing → Option Nat
  | members => some info.numMembers
  | servers => some info.numServers
  | aliases => none

variable {k : Listing} {room : String} {page pageSize : Nat} {settings : RoomSettings}
  {w : Worker} {r : Room} {s : RoomState} {events : List Event}

theorem reply_injective :
    Function.Injective (k.reply : ListReply k.Entry → (k.job room page pageSize).Reply) := by
  cases k <;> exact Function.injective_id

theorem handle_eq (hr : w.rooms[room]? = some r) (now : Time) (k : Listing) :
    w.handle settings now (k.job room page pageSize) =
      .done (.ok (k.reply (Worker.listPage settings page pageSize (k.all ·) r)),
        { w with rooms := w.rooms.insert room (r.access now) }) := by
  cases k <;> exact congrArg Exchange.done (Worker.withRoom_of_getElem? hr now _)

theorem total?_eq {n : Nat} (h : k.total? (r.info settings) = some n) :
    (k.all r.state).length = n := by
  cases k <;> cases h <;> rfl

theorem nodup_keys (h : s.Derives events) (k : Listing) : ((k.all s).map k.key).Nodup := by
  have hbase : s.base.Sound := by
    rw [h.base]
    exact RoomState.sound_after [.apply events false]
  have hsound : s.Sound := by
    rw [h.fresh]
    exact hbase.recalculate
  have hprojects : s.roster.Projects s.base := by
    rw [congrArg RoomState.roster h.fresh]
    exact hbase.projects_roster
  cases k with
  | members =>
      change (s.roster.members.map (·.userId)).Nodup
      rw [h.roster]
      refine ((List.mergeSort_perm ..).map _).nodup_iff.2 ?_
      exact (List.filter_sublist.map _).nodup (hsound.nodup_userIds (.refl _))
  | servers => exact hprojects.nodup_serverNames
  | aliases =>
      change (s.roster.aliases.map (·.serverName)).Nodup
      rw [h.roster]
      refine ((List.mergeSort_perm ..).map _).nodup_iff.2 ?_
      rw [List.map_map]
      exact Roster.nodup_map_fst (.refl _)

/-! ## One page after another -/

/-- A worker that holds the room in this state replies so for a page. -/
def Answers (settings : RoomSettings) (room : String) (s : RoomState) (k : Listing)
    (page pageSize : Nat) (reply : ListReply k.Entry) : Prop :=
  ∃ (w : Worker) (r : Room) (now : Time) (w' : Worker), w.rooms[room]? = some r ∧ r.state = s ∧
    w.handle settings now (k.job room page pageSize) = .done (.ok (k.reply reply), w')

/-- Pages in a row, up to the first empty one, which is left out. Each of them may have been replied
by another worker at another time, as long as the state was the same. -/
inductive Walk (settings : RoomSettings) (room : String) (s : RoomState) (k : Listing)
    (pageSize : Nat) : Nat → List (List k.Entry) → Prop
  | last {page : Nat} {reply : ListReply k.Entry}
      (h : k.Answers settings room s page pageSize reply) (hempty : reply.entries = []) :
      Walk settings room s k pageSize page []
  | next {page : Nat} {reply : ListReply k.Entry} {pages : List (List k.Entry)}
      (h : k.Answers settings room s page pageSize reply) (hne : reply.entries ≠ [])
      (hwalk : Walk settings room s k pageSize (page + 1) pages) :
      Walk settings room s k pageSize page (reply.entries :: pages)

theorem Answers.exists_info {reply : ListReply k.Entry}
    (h : k.Answers settings room s page pageSize reply) :
    reply.entries = Pagination.slice page pageSize (k.all s) ∧ reply.page = page ∧
      reply.pageSize = pageSize ∧ ∀ n, k.total? reply.info = some n → (k.all s).length = n := by
  obtain ⟨w, r, now, w', hr, rfl, hhandle⟩ := h
  rw [handle_eq hr] at hhandle
  have hreply := congrArg Prod.fst (Exchange.done.inj hhandle)
  rw [← reply_injective (Except.ok.inj hreply)]
  exact ⟨rfl, rfl, rfl, fun n hn => total?_eq hn⟩

theorem Answers.entries_eq {reply : ListReply k.Entry}
    (h : k.Answers settings room s page pageSize reply) :
    reply.entries = Pagination.slice page pageSize (k.all s) :=
  h.exists_info.1

/-- Every page is replied at any time, and the room stays in its state. -/
theorem exists_answers (hr : w.rooms[room]? = some r) (settings : RoomSettings) (now : Time)
    (k : Listing) (page pageSize : Nat) :
    ∃ reply w' r', w.handle settings now (k.job room page pageSize) =
        .done (.ok (k.reply reply), w') ∧ k.Answers settings room r.state page pageSize reply ∧
      w'.rooms[room]? = some r' ∧ r'.state = r.state :=
  ⟨_, _, r.access now, handle_eq hr now k, ⟨w, r, now, _, hr, rfl, handle_eq hr now k⟩,
    Std.ExtTreeMap.getElem?_insert_self, rfl⟩

theorem Walk.tiles {m : Nat} {pages : List (List k.Entry)}
    (h : k.Walk settings room s pageSize (m + 1) pages) (hlength : (k.all s).length ≤ Count.limit)
    (hpos : 1 ≤ pageSize) :
    pages.flatten = (k.all s).drop (m * pageSize) ∧ (∀ p ∈ pages, p ≠ []) ∧
      (∀ p ∈ pages.dropLast, p.length = pageSize) ∧
      (k.all s).length ≤ (m + pages.length) * pageSize := by
  generalize hpage : m + 1 = page at h
  induction h generalizing m with
  | last h hempty =>
      subst hpage
      rw [h.entries_eq, Pagination.slice_succ hlength, List.take_eq_nil_iff] at hempty
      have hdrop := hempty.resolve_left (Nat.ne_of_gt hpos)
      exact ⟨hdrop.symm, nofun, nofun, List.drop_eq_nil_iff.1 hdrop⟩
  | @next page reply pages h hne hwalk ih =>
      subst hpage
      obtain ⟨hflatten, hnonempty, hfull, hend⟩ := ih rfl
      have hentries := h.entries_eq
      rw [Pagination.slice_succ hlength] at hentries
      rw [Nat.add_mul, Nat.one_mul] at hflatten
      refine ⟨?_, List.forall_mem_cons.2 ⟨hne, hnonempty⟩, ?_, ?_⟩
      · rw [List.flatten_cons, hflatten, hentries, ← List.drop_drop, List.take_append_drop]
      · cases pages with
        | nil => nofun
        | cons second rest =>
            refine List.forall_mem_cons.2 ⟨?_, hfull⟩
            -- Something is left for the second page, so the first one is full.
            have hmore : (k.all s).drop (m * pageSize + pageSize) ≠ [] := by
              rw [← hflatten, List.flatten_cons]
              exact List.append_ne_nil_of_left_ne_nil (hnonempty second List.mem_cons_self) _
            rw [hentries, List.length_take, List.length_drop]
            have hlt := Nat.lt_of_not_le (mt List.drop_eq_nil_of_le hmore)
            omega
      · rw [List.length_cons, Nat.add_comm pages.length, ← Nat.add_assoc]
        exact hend

theorem exists_walk (hr : w.rooms[room]? = some r) (settings : RoomSettings) (k : Listing)
    (hlength : (k.all r.state).length ≤ Count.limit) (hpos : 1 ≤ pageSize) (m : Nat) :
    ∃ pages, k.Walk settings room r.state pageSize (m + 1) pages := by
  -- Every page that is not empty leaves less of the list for the pages after it.
  induction hleft : (k.all r.state).length - m * pageSize using Nat.strong_induction_on
    generalizing m with
  | _ left ih =>
      obtain ⟨reply, -, -, -, hanswers, -, -⟩ := exists_answers hr settings 0 k (m + 1) pageSize
      by_cases hempty : reply.entries = []
      · exact ⟨[], .last hanswers hempty⟩
      · have hentries := hanswers.entries_eq
        rw [Pagination.slice_succ hlength] at hentries
        have hdrop : (k.all r.state).drop (m * pageSize) ≠ [] := by
          intro hnil
          rw [hentries, hnil, List.take_nil] at hempty
          exact hempty rfl
        have hlt := Nat.lt_of_not_le (mt List.drop_eq_nil_of_le hdrop)
        have hless : (k.all r.state).length - (m + 1) * pageSize < left := by
          rw [Nat.add_mul, Nat.one_mul]
          omega
        obtain ⟨pages, hwalk⟩ := ih _ hless (m + 1) rfl
        exact ⟨_, .next hanswers hempty hwalk⟩

/-- What the pages of a list are to the list as a whole, that is to page zero. -/
structure Tiles (settings : RoomSettings) (room : String) (s : RoomState) (k : Listing) : Prop where
  replied : ∀ (w : Worker) r, w.rooms[room]? = some r → r.state = s → ∀ now page pageSize,
    ∃ reply w' r', w.handle settings now (k.job room page pageSize) =
      .done (.ok (k.reply reply), w') ∧ reply.page = page ∧ reply.pageSize = pageSize ∧
        w'.rooms[room]? = some r' ∧ r'.state = s
  nodup : ∀ size whole, k.Answers settings room s 0 size whole → (whole.entries.map k.key).Nodup
  total : ∀ size whole page pageSize reply n, k.Answers settings room s 0 size whole →
    k.Answers settings room s page pageSize reply → k.total? reply.info = some n →
      whole.entries.length = n
  exists_walk : ∀ pageSize, 1 ≤ pageSize → ∃ pages, k.Walk settings room s pageSize 1 pages
  flatten : ∀ pageSize pages size whole, 1 ≤ pageSize → k.Walk settings room s pageSize 1 pages →
    k.Answers settings room s 0 size whole → pages.flatten = whole.entries
  full : ∀ pageSize pages, 1 ≤ pageSize → k.Walk settings room s pageSize 1 pages →
    ∀ entries ∈ pages.dropLast, entries.length = pageSize
  later : ∀ pageSize pages page reply, 1 ≤ pageSize → k.Walk settings room s pageSize 1 pages →
    pages.length < page → k.Answers settings room s page pageSize reply → reply.entries = []

theorem Answers.entries_zero {size : Nat} {whole : ListReply k.Entry}
    (h : k.Answers settings room s 0 size whole) : whole.entries = k.all s := by
  rw [h.entries_eq, Pagination.slice_zero]

theorem tiles (h : s.Derives events) (hr : w.rooms[room]? = some r) (hs : r.state = s)
    (hlength : (k.all s).length ≤ Count.limit) : k.Tiles settings room s where
  replied w r hr hs now page pageSize := by
    obtain ⟨reply, w', r', hhandle, hreply, hr', hstate⟩ :=
      exists_answers hr settings now k page pageSize
    obtain ⟨-, hpage, hsize, -⟩ := hreply.exists_info
    exact ⟨reply, w', r', hhandle, hpage, hsize, hr', hstate.trans hs⟩
  nodup size whole hwhole := by
    rw [hwhole.entries_zero]
    exact nodup_keys h k
  total size whole page pageSize reply n hwhole hreply hn := by
    rw [hwhole.entries_zero]
    exact hreply.exists_info.2.2.2 n hn
  exists_walk pageSize hpos := by
    subst hs
    exact exists_walk hr settings k hlength hpos 0
  flatten pageSize pages size whole hpos hwalk hwhole := by
    rw [hwhole.entries_zero, (hwalk.tiles (m := 0) hlength hpos).1, Nat.zero_mul, List.drop_zero]
  full pageSize pages hpos hwalk := (hwalk.tiles (m := 0) hlength hpos).2.2.1
  later pageSize pages page reply hpos hwalk hpage hreply := by
    have hend := (hwalk.tiles (m := 0) hlength hpos).2.2.2
    obtain ⟨j, rfl⟩ := Nat.exists_eq_add_of_lt hpage
    rw [hreply.entries_eq, Pagination.slice_succ hlength]
    refine List.take_eq_nil_iff.2 (.inr (List.drop_eq_nil_of_le (hend.trans ?_)))
    exact Nat.mul_le_mul_right pageSize (by omega)

end Listing

namespace Crew

/-- The pages of the members, the servers and the aliases of any cached room tile the list of them,
as long as the state of the room stays. The bounds of a page lie in the list in their order, and
they are those of plain numbers although all sums and products stop at the limit of counts. -/
theorem listings_tile {σ : Type} {hs : Homeserver σ} {settings : RoomSettings} {numWorkers : Nat}
    {x : Crew σ} (hx : Reachable hs settings numWorkers x) {i : Nat} {w : Worker} {room : String}
    {r : Room} (hw : x.pool.workers[i]? = some (some w)) (hr : w.rooms[room]? = some r) :
    (∀ k : Listing, (k.all r.state).length ≤ Count.limit → k.Tiles settings room r.state) ∧
      ∀ page pageSize length, length ≤ Count.limit →
        (Pagination.bounds page pageSize length).1 ≤ (Pagination.bounds page pageSize length).2 ∧
          (Pagination.bounds page pageSize length).2 ≤ length ∧
          (page ≠ 0 → Pagination.bounds page pageSize length =
            (min ((page - 1) * pageSize) length, min (page * pageSize) length)) := by
  obtain ⟨events, hevents⟩ := (hx.inOrder.labours hw).1.derived room r hr
  refine ⟨fun k hlength => Listing.tiles hevents hr rfl hlength, ?_⟩
  intro page pageSize length hlength
  obtain ⟨hstart, hstop⟩ := Pagination.bounds_within page pageSize length
  refine ⟨hstart, hstop, fun hpage => ?_⟩
  obtain ⟨k, rfl⟩ := Nat.exists_eq_succ_of_ne_zero hpage
  exact Pagination.bounds_succ hlength k pageSize

end Crew

/-! A worker loads a room of three members from two servers. Its members are read two at a time. -/

namespace SmallRoom

open Crew

def party : LogServer :=
  ({} : LogServer).setRoom room
    { history := [.message "$0"]
      state := [joining "@alice:hs.one", joining "@bob:hs.two", joining "@carol:hs.one"] }

def hosting : Homeserver Unit := ⟨fun c s => (some (party.answer c), s)⟩

def loadedParty : Crew Unit :=
  ((Crew.idle (.ofSize 1) ()).ask 0 1 (.initialSync room)).turns hosting settings [0, 0, 0]

theorem reachable_loadedParty : Crew.Reachable hosting settings 1 loadedParty :=
  ⟨(), (run_ask hosting settings (by decide +kernel) 1 _).trans (run_turns ..)⟩

theorem party_is_tiled : ∃ w r, loadedParty.pool.workers[0]? = some (some w) ∧
    w.rooms[room]? = some r ∧ r.state.members.length = 3 ∧
    Listing.members.Tiles settings room r.state ∧
    ∃ pages, Listing.members.Walk settings room r.state 2 1 pages ∧
      pages.flatten = r.state.members := by
  have hheld : (loadedParty.pool.workers[0]?.join.bind fun w =>
      w.rooms[room]?.map fun r => r.state.members.length) = some 3 := by cbv
  obtain ⟨w, hw, hheld⟩ := Option.bind_eq_some_iff.1 hheld
  obtain ⟨r, hr, hthree⟩ := Option.map_eq_some_iff.1 hheld
  have htiles : Listing.members.Tiles settings room r.state := by
    refine (listings_tile reachable_loadedParty (Option.join_eq_some_iff.1 hw) hr).1 .members ?_
    change r.state.members.length ≤ Count.limit
    rw [hthree]
    decide
  obtain ⟨pages, hpages⟩ := htiles.exists_walk 2 (by decide)
  obtain ⟨whole, w', r', -, hwhole, -⟩ := Listing.exists_answers hr settings 0 .members 0 2
  refine ⟨w, r, Option.join_eq_some_iff.1 hw, hr, hthree, htiles, pages, hpages, ?_⟩
  rw [htiles.flatten 2 pages 2 whole (by decide) hpages hwhole, hwhole.entries_zero]
  rfl

end SmallRoom

end RoomReader
