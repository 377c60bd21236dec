import RoomReader.Proofs.Server.Cached
import RoomReader.Proofs.Timeline.Service

namespace RoomReader

/-!
# A page is found again

The anchor and the offset that a timeline page names lead back to it. Its events are all found again,
in the same order, with no others between or after them. Older events can join them at the old end if
the page was cut short there.
-/

variable {σ : Type} {hs : Homeserver σ} {settings : RoomSettings} {now : Time} {s s' : σ}
  {room anchor : String} {offset : Int} {pageSize : Nat} {r : Room} {a : Nat}

namespace Worker

variable {w w' : Worker}

/-- A page that is replied is a window of the room's timeline as it then is. -/
theorem exists_window_of_handle {reply : EventsReply}
    (h : (w.handle settings now (.eventsPage room anchor offset pageSize)).run hs s =
      (some (.ok reply, w'), s')) :
    ∃ r a, w'.rooms[room]? = some r ∧ r.timeline.IndexOf anchor a ∧
      reply.events = (r.timeline.window a offset pageSize).events ∧
      reply.atTopEnd = (r.timeline.window a offset pageSize).atTopEnd := by
  simp only [handle, eventsPage] at h
  split at h
  · cases h
  · rename_i r hr
    obtain ⟨⟨page, r'⟩, s₁, hrun, h⟩ := Exchange.run_bind_eq_some.1 h
    obtain ⟨⟨page, t⟩, s₂, hpage, hrun⟩ := Exchange.run_bind_eq_some.1 hrun
    cases hrun
    obtain ⟨-, hwindow⟩ := Timeline.fetches_of_getPage hpage
    cases page with
    | error e => cases h
    | ok page =>
        cases h
        obtain ⟨a, ha, rfl⟩ := hwindow page rfl
        exact ⟨_, a, Std.ExtTreeMap.getElem?_insert_self, ha, rfl, rfl⟩

/-- At an anchor that is held a page is always replied. -/
theorem exists_handle_of_indexOf (hback : hs.ComesBack) (hr : w.rooms[room]? = some r)
    (ha : r.timeline.IndexOf anchor a) (settings : RoomSettings) (now : Time) (offset : Int)
    (pageSize : Nat) (s : σ) :
    ∃ reply w' s' t, (w.handle settings now (.eventsPage room anchor offset pageSize)).run hs s =
        (some (.ok reply, w'), s') ∧
      Timeline.Deepens hs r.id r.timeline t ∧ (offset < 0 → t = r.timeline) ∧
      reply.events = (t.window a offset pageSize).events := by
  obtain ⟨t, s', hpage, hdeepens, hsame⟩ :=
    ha.exists_getPage hback r.id offset pageSize s
  refine ⟨{ info := r.info settings
            events := (t.window a offset pageSize).events
            memberMap := senders r.state (t.window a offset pageSize).events
            atTopEnd := (t.window a offset pageSize).atTopEnd
            atBottomEnd := (t.window a offset pageSize).atBottomEnd },
    { rooms := w.rooms.insert room { r with timeline := t, lastAccess := now } }, s', t, ?_,
    hdeepens, hsame, rfl⟩
  simp only [handle, eventsPage, hr]
  rw [Room.getPage, Exchange.bind_assoc, Exchange.run_bind_of_run hpage]
  rfl

theorem handle_initialSync_of_some (hr : w.rooms[room]? = some r) (settings : RoomSettings)
    (now : Time) (s : σ) :
    (w.handle settings now (.initialSync room)).run hs s =
      (some (.ok (), { w with rooms := w.rooms.insert room (r.access now) }), s) := by
  simp only [handle, initialSync, hr]
  rfl

end Worker

namespace Pool

variable {p p' : Pool}

theorem exists_worker_of_cached? (hr : p.cached? room = some r) :
    ∃ w, p.workers[p.workerIndex room]?.join = some w ∧ w.rooms[room]? = some r :=
  Option.bind_eq_some_iff.1 hr

theorem cached?_setWorker {w w' : Worker} (hw : p.workers[p.workerIndex room]?.join = some w) :
    (p.setWorker (p.workerIndex room) (some w')).cached? room = w'.rooms[room]? := by
  rw [cached?, workerIndex_setWorker, join_getElem?_setWorker_self hw, Option.bind_some]

theorem exists_window_of_request {reply : EventsReply}
    (h : p.request hs settings now (.eventsPage room anchor offset pageSize) s =
      (.ok reply, p', s')) :
    ∃ r a, p'.cached? room = some r ∧ r.timeline.IndexOf anchor a ∧
      reply.events = (r.timeline.window a offset pageSize).events ∧
      reply.atTopEnd = (r.timeline.window a offset pageSize).atTopEnd := by
  cases hw : p.workers[p.workerIndex room]?.join with
  | none =>
      simp only [request, dispatch, Job.room, hw, Outcome.toExcept] at h
      cases h
  | some w =>
      cases hrun : (w.handle settings now (.eventsPage room anchor offset pageSize)).run hs s with
      | mk done s₁ =>
          cases done with
          | none =>
              simp only [request, dispatch, Job.room, hw, hrun, Outcome.toExcept] at h
              cases h
          | some result =>
              obtain ⟨result, w'⟩ := result
              rw [request_of_handle hrun hw] at h
              cases h
              obtain ⟨r, a, hr, hpage⟩ := Worker.exists_window_of_handle hrun
              exact ⟨r, a, (cached?_setWorker hw).trans hr, hpage⟩

theorem request_initialSync_of_cached? (hr : p.cached? room = some r) (settings : RoomSettings)
    (now : Time) (s : σ) :
    ∃ p', p.request hs settings now (.initialSync room) s = (.ok (), p', s) ∧
      p'.cached? room = some (r.access now) := by
  obtain ⟨w, hw, hr⟩ := exists_worker_of_cached? hr
  refine ⟨_, request_of_handle (Worker.handle_initialSync_of_some hr settings now s) hw, ?_⟩
  exact (cached?_setWorker hw).trans Std.ExtTreeMap.getElem?_insert_self

theorem exists_request_of_indexOf (hback : hs.ComesBack) (hr : p.cached? room = some r)
    (ha : r.timeline.IndexOf anchor a) (settings : RoomSettings) (now : Time) (offset : Int)
    (pageSize : Nat) (s : σ) :
    ∃ reply p' s' t, p.request hs settings now (.eventsPage room anchor offset pageSize) s =
        (.ok reply, p', s') ∧
      Timeline.Deepens hs r.id r.timeline t ∧ (offset < 0 → t = r.timeline) ∧
      reply.events = (t.window a offset pageSize).events := by
  obtain ⟨w, hw, hr⟩ := exists_worker_of_cached? hr
  obtain ⟨reply, w', s', t, hrun, hpage⟩ :=
    Worker.exists_handle_of_indexOf hback hr ha settings now offset pageSize s
  exact ⟨reply, _, s', t, request_of_handle hrun hw, hpage⟩

end Pool

/-- A query asks for the page at an anchor and an offset. -/
def TimelinePage.AskedBy (anchor : String) (offset : Int) (query : String) : Prop :=
  ∃ q, EventsQuery.parse? query = some q ∧ q.anchor.getD "" = anchor ∧ q.offset.getD 0 = offset

/-- The anchor that a page names stands for the index that it was counted from, unless it is the
first event of a page that begins further back. -/
theorem Timeline.IndexOf.shownAnchor {t : Timeline} (ha : t.IndexOf anchor a)
    (hside : anchor ≠ "" ∨ offset ≤ 0) (pageSize : Nat) :
    t.IndexOf (TimelinePage.shownAnchor anchor (t.window a offset pageSize).events) a := by
  unfold TimelinePage.shownAnchor
  rcases ha with ⟨rfl, rfl⟩ | ⟨hne, ha⟩
  · replace hside : offset ≤ 0 := hside.resolve_left fun h => h rfl
    obtain ⟨k, hk⟩ := t.exists_window_eq_take pageSize hside
    rw [hk]
    cases hfirst : t.events.take k with
    | nil => exact .inl ⟨rfl, rfl⟩
    | cons e rest =>
        by_cases hid : e.id = ""
        · exact .inl ⟨hid, rfl⟩
        · refine .inr ⟨hid, ?_⟩
          have hevents := List.take_append_drop k t.events
          rw [hfirst] at hevents
          rw [position?, ← hevents, List.cons_append, List.findIdx?_cons]
          simp
  · rw [if_neg (by simpa using hne)]
    exact .inr ⟨hne, ha⟩

theorem RequestError.le_status_notice (e : RequestError) : 400 ≤ e.notice.status := by
  rcases e with e | _ | _
  · cases e <;> simp [notice]
  · simp [notice]
  · simp [notice]

theorem Response.ofError_ne_page (e : RequestError) (json : Json) : ofError e ≠ page json := by
  intro h
  have hstatus : e.notice.status = 200 := congrArg Response.status h
  have herror := e.le_status_notice
  omega

namespace Server

/-- What can happen between two requests: another request, or what leaves the cached rooms alone,
such as a new directory or anything at the homeserver. -/
inductive Turn (hs : Homeserver σ) : Server × σ → Server × σ → Prop
  | request {srv : Server} {s : σ} (now : Time) (route : Route) (query : String) :
      Turn hs (srv, s) (srv.get hs now route query s).2
  | aside {srv srv' : Server} {s s' : σ} (h : srv'.pool = srv.pool) : Turn hs (srv, s) (srv', s')

abbrev Turns (hs : Homeserver σ) : Server × σ → Server × σ → Prop :=
  Relation.ReflTransGen (Turn hs)

variable {srv srv' : Server}

theorem keeps_of_turns (hback : hs.ComesBack) {x y : Server × σ} (h : Turns hs x y) :
    x.1.pool.Keeps hs y.1.pool := by
  induction h with
  | refl => exact .refl _
  | tail _ hturn ih =>
      refine ih.trans ?_
      cases hturn with
      | request now route query => exact keeps_get hback now route query _ _
      | aside hpool =>
          rw [hpool]
          exact .refl _

/-- The reply to a job on a room that is cached. -/
theorem exists_roomJob_of_cached? (hback : hs.ComesBack) (hid : isRoomId room)
    (hr : srv.pool.cached? room = some r) (ha : r.timeline.IndexOf anchor a) (now : Time)
    (offset : Int) (pageSize : Nat) (s : σ) :
    ∃ reply srv' s' t, srv.roomJob hs now (.eventsPage room anchor offset pageSize) s =
        (.ok reply, srv', s') ∧
      Timeline.Deepens hs r.id r.timeline t ∧ (offset < 0 → t = r.timeline) ∧
      reply.events = (t.window a offset pageSize).events := by
  obtain ⟨p, hsync, hr'⟩ : ∃ p, srv.pool.request hs srv.rooms now (.initialSync room) s =
      (.ok (), p, s) ∧ p.cached? room = some (r.access now) :=
    Pool.request_initialSync_of_cached? hr srv.rooms now s
  obtain ⟨reply, p', s', t, hrequest, hpage⟩ :=
    Pool.exists_request_of_indexOf hback hr' ha srv.rooms now offset pageSize s
  refine ⟨reply, { srv with pool := p' }, s', t, ?_, hpage⟩
  unfold roomJob
  simp only [Job.room, hid, if_true, hsync, hrequest]
  rfl

theorem roomJob_eq_ok {job : Job} {reply : job.Reply}
    (h : srv.roomJob hs now job s = (.ok reply, srv', s')) :
    isRoomId job.room ∧
      ∃ (p : Pool) (s₁ : σ), p.request hs srv.rooms now job s₁ = (.ok reply, srv'.pool, s') := by
  unfold roomJob at h
  split at h
  · rename_i hid
    refine ⟨hid, ?_⟩
    split at h
    · cases h
    · rename_i p s₁ _
      refine ⟨p, s₁, ?_⟩
      generalize p.request hs srv.rooms now job s₁ = answer at h
      obtain ⟨result, p', s₂⟩ := answer
      cases result <;> cases h
      rfl
  · cases h

theorem roomPage_eq_page {job : Job} {page : job.Reply → Json} {json : Json}
    (h : srv.roomPage hs now job page s = (.page json, srv', s')) :
    ∃ reply, srv.roomJob hs now job s = (.ok reply, srv', s') ∧ json = page reply := by
  unfold roomPage at h
  generalize srv.roomJob hs now job s = answer at h ⊢
  obtain ⟨result, srv₁, s₁⟩ := answer
  cases result with
  | error e => exact absurd (congrArg Prod.fst h) (Response.ofError_ne_page e json)
  | ok reply =>
      cases h
      exact ⟨reply, rfl, rfl⟩

/-- A page that a request is answered with, and the room that it shows. -/
theorem exists_reply_of_get {json : Json} {query : String}
    (h : srv.get hs now (.room room) query s = (some (.page json), srv', s')) :
    ∃ (q : EventsQuery) (reply : EventsReply) (r : Room) (a : Nat),
      EventsQuery.parse? query = some q ∧ isRoomId room ∧ srv'.pool.cached? room = some r ∧
      json = (TimelinePage.ofReply (q.anchor.getD "") (q.offset.getD 0) q.highlight reply).toJson ∧
      r.timeline.IndexOf (q.anchor.getD "") a ∧
      reply.events = (r.timeline.window a (q.offset.getD 0) PageSize.timeline).events ∧
      reply.atTopEnd = (r.timeline.window a (q.offset.getD 0) PageSize.timeline).atTopEnd := by
  simp only [get] at h
  cases hquery : EventsQuery.parse? query with
  | none =>
      simp only [hquery, withQuery] at h
      cases h
  | some q =>
      simp only [hquery, withQuery, Prod.mk.injEq, Option.some.injEq] at h
      obtain ⟨reply, hjob, hjson⟩ := roomPage_eq_page (Prod.ext h.1 h.2)
      obtain ⟨hid, p, s₁, hrequest⟩ := roomJob_eq_ok hjob
      obtain ⟨r, a, hr, ha, hpage⟩ := Pool.exists_window_of_request hrequest
      exact ⟨q, reply, r, a, rfl, hid, hr, hjson, ha, hpage⟩

/-- What is read on a cached room is in the buffer that the room then has. -/
theorem exists_get_of_cached? (hback : hs.ComesBack) (hid : isRoomId room)
    (hr : srv.pool.cached? room = some r) (ha : r.timeline.IndexOf anchor a) {query : String}
    (hquery : TimelinePage.AskedBy anchor offset query) (now : Time) (s : σ) :
    ∃ (p : TimelinePage) (srv' : Server) (s' : σ) (t : Timeline),
      srv.get hs now (.room room) query s = (some (.page p.toJson), srv', s') ∧
      Timeline.Deepens hs r.id r.timeline t ∧ (offset < 0 → t = r.timeline) ∧
      p.events = (t.window a offset PageSize.timeline).events.reverse := by
  obtain ⟨q, hparse, rfl, rfl⟩ := hquery
  obtain ⟨reply, srv', s', t, hjob, hdeepens, hsame, hevents⟩ :=
    exists_roomJob_of_cached? hback hid hr ha now (q.offset.getD 0) PageSize.timeline s
  refine ⟨.ofReply (q.anchor.getD "") (q.offset.getD 0) q.highlight reply, srv', s', t, ?_,
    hdeepens, hsame, congrArg List.reverse hevents⟩
  simp only [get, hparse, withQuery, roomPage, hjob]

/-- The anchor and the offset of a page lead back to its events. Only a page that was cut short at
the old end of the buffer can have gained older ones by then. -/
theorem timeline_page_is_pinned (hback : hs.ComesBack) {srv srv₁ : Server} {s s₁ : σ} {now : Time}
    {room query : String} {json : Json}
    (h : srv.get hs now (.room room) query s = (some (.page json), srv₁, s₁)) :
    ∃ (q : EventsQuery) (p : TimelinePage) (r : Room), EventsQuery.parse? query = some q ∧
      json = p.toJson ∧ p.offset = q.offset.getD 0 ∧ srv₁.pool.cached? room = some r ∧
      (q.anchor.getD "" ≠ "" ∨ p.offset ≤ 0 → ∀ srv₂ s₂, Turns hs (srv₁, s₁) (srv₂, s₂) →
        srv₂.pool = srv₁.pool ∨ 0 ≤ p.offset ∨ p.atTopEnd = false →
        ∀ now' query', TimelinePage.AskedBy p.anchor p.offset query' →
          ∃ (p' : TimelinePage) (srv₃ : Server) (s₃ : σ) (older : List Event),
            srv₂.get hs now' (.room room) query' s₂ = (some (.page p'.toJson), srv₃, s₃) ∧
            p'.events = older ++ p.events ∧
            (p.offset < 0 ∨ p.atTopEnd = false ∨ p.events.length = PageSize.timeline ∨
              r.timeline.historicEndReached = true ∨ Timeline.Exhausted hs r.id r.timeline →
              older = [])) := by
  obtain ⟨q, reply, r, a, hparse, hid, hr, hjson, ha, hevents, htop⟩ := exists_reply_of_get h
  refine ⟨q, _, r, hparse, hjson, rfl, hr, ?_⟩
  dsimp only [TimelinePage.ofReply]
  intro hside srv₂ s₂ hturns hstill now' query' hquery
  rw [hevents] at hquery ⊢
  rw [htop] at hstill ⊢
  -- The anchor that is named stands for the index that the page was counted from, then and now.
  replace ha := ha.shownAnchor hside PageSize.timeline
  obtain ⟨r', hr', hread⟩ := (keeps_of_turns hback hturns).held room r hr
  obtain ⟨p', srv₃, s₃, t, hget, hdeepens, hsame, hevents'⟩ :=
    exists_get_of_cached? hback hid hr' (ha.deepens hread.deepens) hquery now' s₂
  rw [hread.id] at hdeepens
  -- For a negative offset nothing is fetched now, but other requests may have fetched meanwhile.
  have hstill' : t = r.timeline ∨ 0 ≤ q.offset.getD 0 ∨
      (r.timeline.window a (q.offset.getD 0) PageSize.timeline).atTopEnd = false := by
    rcases hstill with hpool | hstill
    · rw [hpool, hr] at hr'
      cases hr'
      exact (Int.lt_or_le _ _).imp hsame .inl
    · exact .inr hstill
  have hall : Timeline.Deepens hs r.id r.timeline t := hread.deepens.trans hdeepens
  obtain ⟨older, hwindow, hfull⟩ := hall.exists_window_append a PageSize.timeline hstill'
  refine ⟨p', srv₃, s₃, older.reverse, hget, ?_, fun hsame => ?_⟩
  · rw [hevents', hwindow, List.reverse_append]
  · rw [List.length_reverse] at hsame
    rw [hfull hsame, List.reverse_nil]

end Server

/-- The JSON of a page says where the page was looked for. -/
theorem TimelinePage.anchor_eq_of_toJson_eq {p p' : TimelinePage} (h : p.toJson = p'.toJson) :
    p.anchor = p'.anchor ∧ p.offset = p'.offset := by
  simp only [toJson, Json.obj.injEq, List.cons.injEq, Prod.mk.injEq, true_and] at h
  obtain ⟨-, -, -, -, hoffset, hanchor, -⟩ := h
  exact ⟨Json.str.inj hanchor, Json.int.inj hoffset⟩

end RoomReader

/-! The page of the small room is found again by what it names. A page that was cut short at the
old end can grow, and one that was counted from the newest event without an anchor, but begins
further back, names the wrong anchor. -/

namespace RoomReader.SmallRoom

open RoomReader.Server

theorem comesBack : (LogServer.serving room).ComesBack := fun _ _ => ⟨_, _, rfl⟩

def fresh : Server := .ofSettings { numWorkers := 1 } ""

/-- What a fresh server shows for a query, and next for the anchor and the offset of that page. -/
def ShownTwice (s : LogServer.With room) (query again : String) (shown next : List Event) : Prop :=
  ∃ (p p' : TimelinePage) (srv₁ srv₂ : Server) (s₁ s₂ : LogServer.With room),
    fresh.get (LogServer.serving room) 0 (.room room) query s =
      (some (.page p.toJson), srv₁, s₁) ∧ p.events = shown ∧
    TimelinePage.AskedBy p.anchor p.offset again ∧
    srv₁.get (LogServer.serving room) 0 (.room room) again s₁ =
      (some (.page p'.toJson), srv₂, s₂) ∧ p'.events = next

theorem pinned_fresh : ∃ shown, ShownTwice early "" "anchor=$2&offset=0" shown shown := by
  obtain ⟨page, srv₁, s₁, hget, hanchor, hoffset, hend⟩ : ∃ (page : TimelinePage)
      (srv₁ : Server) (s₁ : LogServer.With room),
      fresh.get (LogServer.serving room) 0 (.room room) "" early =
        (some (.page page.toJson), srv₁, s₁) ∧ page.anchor = "$2" ∧ page.offset = 0 ∧
      (srv₁.pool.cached? room).map (·.timeline.historicEndReached) = some true :=
    ⟨⟨_, _, _, _, _, _, _, _, _⟩, _, _, rfl, rfl, rfl, rfl⟩
  obtain ⟨q, p, r, -, hjson, -, hr, hpinned⟩ := timeline_page_is_pinned comesBack hget
  obtain ⟨hanchor', hoffset'⟩ := TimelinePage.anchor_eq_of_toJson_eq hjson
  have hasked : TimelinePage.AskedBy p.anchor p.offset "anchor=$2&offset=0" := by
    rw [← hanchor', ← hoffset', hanchor, hoffset]
    exact ⟨_, rfl, rfl, rfl⟩
  have hread : r.timeline.historicEndReached = true := by
    rw [hr] at hend
    exact Option.some.inj hend
  obtain ⟨p', srv₂, s₂, older, hget', hevents, holder⟩ :=
    hpinned (.inr (by omega)) srv₁ s₁ .refl (.inl rfl) 0 _ hasked
  refine ⟨p.events, p, p', srv₁, srv₂, s₁, s₂, hjson ▸ hget, rfl, hasked, hget', ?_⟩
  rw [hevents, holder (.inr (.inr (.inr (.inl hread)))), List.nil_append]

/-- Two messages, with more redactions between them than a load and one call bring. -/
def farApart : List Event :=
  .message "$0" :: (List.range 319).map (fun n => .redacting (Position.token n)) ++ [.message "$1"]

theorem nodup_farApart : (farApart.map Event.id).Nodup := by
  have hids : farApart.map Event.id = "$0" :: (List.range 319).map Position.token ++ ["$1"] := by
    simp [farApart, Event.message, Event.redacting, Function.comp_def]
  have htokens : ((List.range 319).map Position.token).Nodup :=
    List.nodup_range.map fun _ _ => Position.token_injective
  rw [hids, List.nodup_append, List.nodup_cons]
  exact ⟨⟨by decide +kernel, htokens⟩, by simp, by decide +kernel⟩

def farApartRoom : LogServer.With room := LogServer.holding room farApart (by decide +kernel)

def twoMessages : LogServer.With room :=
  LogServer.holding room [.message "$0", .message "$1"] (by decide)

set_option maxRecDepth 2000 in
theorem page_not_pinned :
    ((farApart.map Event.id).Nodup ∧
      ShownTwice farApartRoom "" "anchor=$1&offset=0"
        [.message "$1"] [.message "$0", .message "$1"]) ∧
    ShownTwice twoMessages "offset=1" "anchor=$0&offset=1" [.message "$0"] [] := by
  refine ⟨⟨nodup_farApart, ?_⟩, ?_⟩
  · exact ⟨⟨_, _, _, _, _, _, _, _, _⟩, ⟨_, _, _, _, _, _, _, _, _⟩, _, _, _, _,
      rfl, rfl, ⟨_, rfl, rfl, rfl⟩, rfl, rfl⟩
  · exact ⟨⟨_, _, _, _, _, _, _, _, _⟩, ⟨_, _, _, _, _, _, _, _, _⟩, _, _, _, _,
      rfl, rfl, ⟨_, rfl, rfl, rfl⟩, rfl, rfl⟩

end RoomReader.SmallRoom
