import RoomReader.Proofs.Timeline.Fetch
import RoomReader.Server.Basic

namespace RoomReader

/-!
# Cached rooms between sweeps

Between two sweeps no room is dropped and none takes in what is new. With a homeserver that comes
back no worker dies. So a cached room stays cached, and all that becomes of its timeline is that
older events are fetched.
-/

variable {σ : Type} {hs : Homeserver σ} {settings : RoomSettings} {now : Time} {s s' : σ}

/-- The same room later on, after it has only been read. -/
structure Room.ReadOn (hs : Homeserver σ) (r r' : Room) : Prop where
  id : r'.id = r.id
  deepens : Timeline.Deepens hs r.id r.timeline r'.timeline

namespace Room.ReadOn

theorem refl (r : Room) : r.ReadOn hs r := ⟨rfl, .refl⟩

theorem trans {r r' r'' : Room} (h : r.ReadOn hs r') (h' : r'.ReadOn hs r'') : r.ReadOn hs r'' :=
  ⟨h'.id.trans h.id, h.deepens.trans (h.id ▸ h'.deepens)⟩

theorem access (r : Room) (now : Time) : r.ReadOn hs (r.access now) := ⟨rfl, .refl⟩

theorem of_getPage {r r' : Room} {anchor : String} {offset : Int} {pageSize : Nat}
    {page : Except RoomError EventPage}
    (h : (r.getPage now anchor offset pageSize).run hs s = (some (page, r'), s')) :
    r.ReadOn hs r' := by
  obtain ⟨⟨page, t⟩, s₁, hrun, h⟩ := Exchange.run_bind_eq_some.1 h
  cases h
  exact ⟨rfl, (Timeline.fetches_of_getPage hrun).1.deepens⟩

end Room.ReadOn

namespace Worker

variable {w w' w'' : Worker} {r : Room} {room : String}

/-- All that is held is still held later on, and has only been read. -/
structure Keeps (hs : Homeserver σ) (w w' : Worker) : Prop where
  held : ∀ (room : String) (r : Room), w.rooms[room]? = some r →
    ∃ r' : Room, w'.rooms[room]? = some r' ∧ r.ReadOn hs r'

theorem Keeps.refl (w : Worker) : w.Keeps hs w := ⟨fun _ r hr => ⟨r, hr, .refl r⟩⟩

theorem keeps_insert (h : ∀ r₀ : Room, w.rooms[room]? = some r₀ → r₀.ReadOn hs r) :
    w.Keeps hs { w with rooms := w.rooms.insert room r } := by
  refine ⟨fun other r₀ hr₀ => ?_⟩
  by_cases hroom : room = other
  · subst hroom
    exact ⟨r, Std.ExtTreeMap.getElem?_insert_self, h r₀ hr₀⟩
  · refine ⟨r₀, ?_, .refl r₀⟩
    rw [StringMap.getElem?_insert, if_neg hroom, hr₀]

theorem keeps_insert_of_some {r₀ : Room} (hr₀ : w.rooms[room]? = some r₀) (h : r₀.ReadOn hs r) :
    w.Keeps hs { w with rooms := w.rooms.insert room r } := by
  refine keeps_insert fun r₁ hr₁ => ?_
  rw [hr₀] at hr₁
  cases hr₁
  exact h

theorem keeps_withRoom {α : Type} (w : Worker) (now : Time) (room : String) (view : Room → α) :
    w.Keeps hs (w.withRoom now room view).2 := by
  unfold withRoom
  split
  · exact .refl w
  · rename_i r hr
    exact keeps_insert_of_some hr (.access r now)

theorem keeps_memberInfo (w : Worker) (settings : RoomSettings) (now : Time) (room user : String) :
    w.Keeps hs (w.memberInfo settings now room user).2 := by
  have hview : w.Keeps hs (w.withRoom now room (memberReply? settings user)).2 :=
    keeps_withRoom ..
  unfold memberInfo
  split <;> simp_all only

theorem keeps_of_done {α : Type} {a : α} {p : α × Worker} (hp : w.Keeps hs p.2)
    (h : (Exchange.done p).run hs s = (some (a, w'), s')) : w.Keeps hs w' := by
  cases h
  exact hp

theorem keeps_handle {job : Job} {result : Except RoomError job.Reply}
    (h : (w.handle settings now job).run hs s = (some (result, w'), s')) : w.Keeps hs w' := by
  cases job with
  | initialSync room =>
      simp only [handle, initialSync] at h
      split at h
      · rename_i r hr
        cases h
        exact keeps_insert_of_some hr (.access r now)
      · rename_i hnone
        obtain ⟨loaded, s₁, -, h⟩ := Exchange.run_bind_eq_some.1 h
        cases loaded with
        | error e =>
            cases h
            exact .refl w
        | ok r =>
            cases h
            -- A room is only loaded where none is held, so no cached one is replaced.
            refine keeps_insert fun r₀ hr₀ => ?_
            rw [hnone] at hr₀
            cases hr₀
  | eventsPage room anchor offset pageSize =>
      simp only [handle, eventsPage] at h
      split at h
      · cases h
        exact .refl w
      · rename_i r hr
        obtain ⟨⟨page, r'⟩, s₁, hrun, h⟩ := Exchange.run_bind_eq_some.1 h
        cases h
        exact keeps_insert_of_some hr (.of_getPage hrun)
  | members room page pageSize => exact keeps_of_done (keeps_withRoom ..) h
  | servers room page pageSize => exact keeps_of_done (keeps_withRoom ..) h
  | aliases room page pageSize => exact keeps_of_done (keeps_withRoom ..) h
  | memberInfo room user => exact keeps_of_done (keeps_memberInfo ..) h
  | powerLevels room => exact keeps_of_done (keeps_withRoom ..) h

end Worker

namespace Pool

variable {p p' p'' : Pool} {room : String} {r : Room}

/-- The room as the worker that owns it holds it. -/
def cached? (p : Pool) (room : String) : Option Room :=
  p.workers[p.workerIndex room]?.join.bind (·.rooms[room]?)

/-- All rooms that are cached are still cached later on, and have only been read. -/
structure Keeps (hs : Homeserver σ) (p p' : Pool) : Prop where
  held : ∀ (room : String) (r : Room), p.cached? room = some r →
    ∃ r', p'.cached? room = some r' ∧ r.ReadOn hs r'

theorem Keeps.refl (p : Pool) : p.Keeps hs p := ⟨fun _ r hr => ⟨r, hr, .refl r⟩⟩

theorem Keeps.trans (h : p.Keeps hs p') (h' : p'.Keeps hs p'') : p.Keeps hs p'' := by
  refine ⟨fun room r hr => ?_⟩
  obtain ⟨r', hr', hread⟩ := h.held room r hr
  obtain ⟨r'', hr'', hread'⟩ := h'.held room r' hr'
  exact ⟨r'', hr'', hread.trans hread'⟩

theorem join_getElem?_setWorker_self {i : Nat} {w w' : Worker}
    (hw : p.workers[i]?.join = some w) : (p.setWorker i (some w')).workers[i]?.join = some w' := by
  have hlt : i < p.workers.length := by
    by_contra hge
    rw [List.getElem?_eq_none (by omega)] at hw
    cases hw
  simp [setWorker, List.getElem?_set_self hlt]

theorem keeps_setWorker {i : Nat} {w w' : Worker} (hw : p.workers[i]?.join = some w)
    (h : w.Keeps hs w') : p.Keeps hs (p.setWorker i (some w')) := by
  refine ⟨fun room r hr => ?_⟩
  rw [cached?, workerIndex_setWorker]
  by_cases hi : p.workerIndex room = i
  · rw [cached?, hi, hw, Option.bind_some] at hr
    rw [hi, join_getElem?_setWorker_self hw, Option.bind_some]
    exact h.held room r hr
  · refine ⟨r, ?_, .refl r⟩
    simpa [setWorker, List.getElem?_set_ne (Ne.symm hi), cached?] using hr

/-- A job on a pool whose worker is alive is a job of that worker. -/
theorem request_of_handle {job : Job} {w w' : Worker} {result : Except RoomError job.Reply}
    (h : (w.handle settings now job).run hs s = (some (result, w'), s'))
    (hw : p.workers[p.workerIndex job.room]?.join = some w) :
    p.request hs settings now job s =
      (result, p.setWorker (p.workerIndex job.room) (some w'), s') := by
  simp only [request, dispatch, hw, h, Outcome.toExcept]

theorem keeps_request (hback : hs.ComesBack) (p : Pool) (settings : RoomSettings) (now : Time)
    (job : Job) (s : σ) : p.Keeps hs (p.request hs settings now job s).2.1 := by
  cases hw : p.workers[p.workerIndex job.room]?.join with
  | none =>
      simp only [request, dispatch, hw]
      exact .refl p
  | some w =>
      obtain ⟨⟨result, w'⟩, s', hrun⟩ := Exchange.exists_run hback (w.handle settings now job) s
      rw [request_of_handle hrun hw]
      exact keeps_setWorker hw (Worker.keeps_handle hrun)

end Pool

namespace Server

variable {srv srv' : Server}

theorem keeps_roomJob (hback : hs.ComesBack) (now : Time) (job : Job) (srv : Server) (s : σ) :
    srv.pool.Keeps hs (srv.roomJob hs now job s).2.1.pool := by
  have hsync := Pool.keeps_request hback srv.pool srv.rooms now (.initialSync job.room) s
  unfold roomJob
  split
  · split
    · rename_i heq
      rw [heq] at hsync
      exact hsync
    · rename_i heq
      rw [heq] at hsync
      exact hsync.trans (Pool.keeps_request hback _ _ now job _)
  · exact .refl _

theorem keeps_roomPage (hback : hs.ComesBack) (now : Time) (job : Job) (page : job.Reply → Json)
    (srv : Server) (s : σ) : srv.pool.Keeps hs (srv.roomPage hs now job page s).2.1.pool := by
  have hjob := keeps_roomJob hback now job srv s
  unfold roomPage
  generalize srv.roomJob hs now job s = p at *
  obtain ⟨reply, srv', s'⟩ := p
  cases reply <;> exact hjob

theorem pool_resolveAlias (now : Time) (roomAlias : String) (srv : Server) (s : σ) :
    (srv.resolveAlias hs now roomAlias s).2.1.pool = srv.pool := by
  unfold resolveAlias
  split
  · rfl
  · dsimp only
    split
    · rfl
    · rfl
    · split <;> rfl

theorem keeps_withQuery {α : Type} {query : Option α}
    {f : α → Server → σ → Response × Server × σ} (srv : Server) (s : σ)
    (h : ∀ a, srv.pool.Keeps hs (f a srv s).2.1.pool) :
    srv.pool.Keeps hs (srv.withQuery query f s).2.1.pool := by
  cases query with
  | none => exact .refl _
  | some a => exact h a

/-- No request makes a server lose a cached room. -/
theorem keeps_get (hback : hs.ComesBack) (now : Time) (route : Route) (query : String)
    (srv : Server) (s : σ) : srv.pool.Keeps hs (srv.get hs now route query s).2.1.pool := by
  cases route with
  | directory => exact keeps_withQuery srv s fun _ => .refl _
  | resolve roomAlias =>
      have hpool : (srv.resolveAlias hs now roomAlias s).2.1.pool = srv.pool :=
        pool_resolveAlias ..
      simp only [get]
      split <;>
        · rename_i heq
          rw [heq] at hpool
          rw [hpool]
          exact .refl _
  | room room => exact keeps_withQuery srv s fun _ => keeps_roomPage hback ..
  | permalink room event => exact .refl _
  | members room => exact keeps_withQuery srv s fun _ => keeps_roomPage hback ..
  | member room user => exact keeps_roomPage hback ..
  | servers room => exact keeps_withQuery srv s fun _ => keeps_roomPage hback ..
  | aliases room => exact keeps_withQuery srv s fun _ => keeps_roomPage hback ..
  | powerLevels room => exact keeps_roomPage hback ..

end Server

end RoomReader
