import RoomReader.Proofs.Pool.Accounting
import RoomReader.Proofs.Timeline.Outage

namespace RoomReader

/-!
# What failed calls leave behind

A job ends with the first call that fails, and its room is then as it was before that call, but for
the time of its last access. So what a worker holds of a room is told by the answers that did not
fail, and the next call asks for what follows them.
-/

/-! ## Jobs -/

/-- The room after a read at some time. -/
def Room.readTo (r : Room) (now : Time) (t : Timeline) : Room :=
  { r with timeline := t, lastAccess := now }

theorem Room.tracks_getPage (now : Time) (anchor : String) (offset : Int) (pageSize : Nat)
    (r : Room) :
    (r.getPage now anchor offset pageSize).Tracks (Timeline.reading r.id)
      (fun u e x => ∃ page, r.timeline.Interrupted r.id anchor offset pageSize u e page ∧
        x = .done (page, r.readTo now u))
      (fun u p => p.2 = r.readTo now u) r.timeline := by
  unfold getPage
  refine (r.timeline.tracks_getPage r.id anchor offset pageSize).bind ?_ ?_
  · rintro u e _ ⟨page, hpage, rfl⟩
    exact ⟨page, hpage, rfl⟩
  · rintro u ⟨page, _⟩ rfl
    exact .done rfl

namespace Worker

variable {w : Worker} {settings : RoomSettings} {now : Time} {room anchor : String} {r : Room}
  {offset : Int} {pageSize : Nat}

def pageReply (settings : RoomSettings) (r : Room) (page : EventPage) : EventsReply :=
  { info := r.info settings
    events := page.events
    memberMap := senders r.state page.events
    atTopEnd := page.atTopEnd
    atBottomEnd := page.atBottomEnd }

def put (w : Worker) (room : String) (r : Room) : Worker :=
  { w with rooms := w.rooms.insert room r }

theorem tracks_eventsPage (hw : w.Filed) (hr : w.rooms[room]? = some r) (settings : RoomSettings)
    (now : Time) (anchor : String) (offset : Int) (pageSize : Nat) :
    (w.eventsPage settings now room anchor offset pageSize).Tracks (Timeline.reading room)
      (fun u e x => ∃ page, r.timeline.Interrupted room anchor offset pageSize u e page ∧
        x = .done (page.map (pageReply settings (r.readTo now u)), w.put room (r.readTo now u)))
      (fun u p => p.2 = w.put room (r.readTo now u)) r.timeline := by
  obtain rfl : r.id = room := hw room r hr
  simp only [eventsPage, hr]
  refine (r.tracks_getPage now anchor offset pageSize).bind ?_ ?_
  · rintro u e _ ⟨page, hpage, rfl⟩
    exact ⟨page, hpage, rfl⟩
  · rintro u ⟨page, _⟩ rfl
    exact .done rfl

/-- What a worker comes to when a call fails: an initial sync, a call for older events, or one for
newer events. -/
structure Withstands (settings : RoomSettings) (w : Worker) : Prop where
  sync : ∀ now room answers c next,
    (w.handle settings now (.initialSync room)).Reaches answers (.ask c next) →
    answers = [] ∧ room ∉ w.rooms ∧ ∀ e, next (.error e) = .done (.error (.ofApi room e), w)
  page : ∀ now room anchor offset pageSize answers c next,
    (w.handle settings now (.eventsPage room anchor offset pageSize)).Reaches answers
      (.ask c next) →
    ∃ r t, w.rooms[room]? = some r ∧ answers.foldl Timeline.absorb r.timeline = t ∧
      (∃ limit, c = .messages room t.backToken .backward limit) ∧
      ∀ e, ∃ result, next (.error e) = .done (result, w.put room (r.readTo now t)) ∧
        ((t = r.timeline ∧ (∀ a, ¬ t.IndexOf anchor a) ∧
          result = .error (if e.isRefusal then .unavailable room e.describe
            else .transport room e)) ∨
        ∃ a reply, t.IndexOf anchor a ∧ 0 ≤ offset ∧ result = .ok reply ∧
          reply.events = (t.window a offset pageSize).events ∧
          reply.atTopEnd = (t.window a offset pageSize).atTopEnd ∧
          reply.atBottomEnd = (t.window a offset pageSize).atBottomEnd)
  others : ∀ now job answers c next,
    (w.handle settings now job).Reaches answers (.ask c next) →
    (∃ room, job = .initialSync room) ∨
      ∃ room anchor offset pageSize, job = .eventsPage room anchor offset pageSize
  forward : ∀ (room : String) (r : Room), w.rooms[room]? = some r →
    ∃ next, r.forwardPaginate = .ask r.forwardCall next ∧
      ∀ e, next (.error e) = .done (.error (.ofApi room e), r)
  sweep : ∀ rule now i answers report w',
    (w.sweep rule now i).Reaches answers (.done (report, w')) →
    ∀ (room : String) (r : Room), (w.evictStale rule now).2.rooms[room]? = some r →
      ∃ answer, answers.filter (Answered.isAbout room) = [⟨r.forwardCall, answer⟩] ∧
        ∀ e, answer = .error e → w'.rooms[room]? = some r

theorem not_reaches_of_done {α : Type} {a : α} {answers : List Answered} {c : Call}
    {next : Except ApiError c.Reply → Exchange α} :
    ¬ (Exchange.done a).Reaches answers (.ask c next) := by
  intro h
  cases h

/-- The answer to the one call of an initial sync ends it. -/
theorem failed_initialSync {answers : List Answered} {c : Call}
    {next : Except ApiError c.Reply → Exchange (Except RoomError Unit × Worker)}
    (h : (w.initialSync settings now room).Reaches answers (.ask c next)) :
    answers = [] ∧ room ∉ w.rooms ∧ ∀ e, next (.error e) = .done (.error (.ofApi room e), w) := by
  unfold initialSync at h
  cases hr : w.rooms[room]? with
  | some r =>
      rw [hr] at h
      exact absurd h not_reaches_of_done
  | none =>
      rw [hr] at h
      cases h with
      | refl => exact ⟨rfl, notMem_rooms_of_getElem? hr, fun _ => rfl⟩
      | @answer _ _ answer _ _ h =>
          cases answer <;> exact absurd h not_reaches_of_done

theorem failed_eventsPage (hw : w.Filed) {answers : List Answered} {c : Call}
    {next : Except ApiError c.Reply → Exchange (Except RoomError EventsReply × Worker)}
    (h : (w.eventsPage settings now room anchor offset pageSize).Reaches answers (.ask c next)) :
    ∃ r t, w.rooms[room]? = some r ∧ answers.foldl Timeline.absorb r.timeline = t ∧
      (∃ limit, c = .messages room t.backToken .backward limit) ∧
      ∀ e, ∃ page, r.timeline.Interrupted room anchor offset pageSize t e page ∧
        next (.error e) = .done (page.map (pageReply settings (r.readTo now t)),
          w.put room (r.readTo now t)) := by
  cases hr : w.rooms[room]? with
  | none =>
      simp only [eventsPage, hr] at h
      exact absurd h not_reaches_of_done
  | some r =>
      cases (tracks_eventsPage hw hr settings now anchor offset pageSize).of_reaches h with
      | ask hc hfail _ =>
          obtain ⟨limit, -, hlimit⟩ := hc
          exact ⟨r, _, rfl, rfl, ⟨limit, hlimit⟩, hfail⟩

theorem Filed.withstands (hw : w.Filed) (settings : RoomSettings) : w.Withstands settings where
  sync now room answers c next h := failed_initialSync h
  page now room anchor offset pageSize answers c next h := by
    obtain ⟨r, t, hr, ht, hcall, hfail⟩ := failed_eventsPage hw h
    refine ⟨r, t, hr, ht, hcall, fun e => ?_⟩
    obtain ⟨page, hpage, hnext⟩ := hfail e
    refine ⟨_, hnext, ?_⟩
    rcases hpage with ⟨hsame, hnone, rfl⟩ | ⟨a, ha, hoffset, rfl⟩
    · exact .inl ⟨hsame, hnone, rfl⟩
    · exact .inr ⟨a, _, ha, hoffset, rfl, rfl, rfl, rfl⟩
  others now job answers c next h := by
    cases job with
    | initialSync room => exact .inl ⟨room, rfl⟩
    | eventsPage room anchor offset pageSize => exact .inr ⟨room, anchor, offset, pageSize, rfl⟩
    | members => exact absurd h not_reaches_of_done
    | servers => exact absurd h not_reaches_of_done
    | aliases => exact absurd h not_reaches_of_done
    | memberInfo => exact absurd h not_reaches_of_done
    | powerLevels => exact absurd h not_reaches_of_done
  forward room r hr := by
    obtain rfl : r.id = room := hw room r hr
    exact ⟨_, r.forwardPaginate_eq, fun _ => rfl⟩
  sweep rule now i answers report w' h room r hr := by
    obtain ⟨reply, hanswers, -, -, hw'⟩ := reaches_sweep h
    refine ⟨reply room, ?_, fun e he => ?_⟩
    · rw [hanswers]
      exact filter_isAbout_keys (hw.evictStale rule now) hr reply
    · rw [hw', hr, he]
      rfl

end Worker

/-! ## What the answers tell of a room -/

def Room.content (r : Room) : Timeline × RoomState := (r.timeline, r.state)

/-- What is held of a room after an answer. One that failed, or that is about another room, tells
nothing of it. -/
def Answered.bring (room : String) (held : Option (Timeline × RoomState)) :
    Answered → Option (Timeline × RoomState)
  | ⟨.sync id _, .ok sync⟩ => if id = room then some (Room.ofSync id 0 sync).content else held
  | ⟨.messages id _ .backward _, .ok m⟩ =>
    if id = room then held.map fun p => (p.1.extendBack m, p.2) else held
  | ⟨.messages id _ .forward _, .ok m⟩ =>
    if id = room then held.map fun p => (p.1.extendForward m, Timeline.foldForward p.2 m) else held
  | _ => held

/-- A call about a room that goes on from what is held of it: the initial sync if nothing is, and
else a call from one of its tokens. -/
def Call.Resumes (settings : RoomSettings) (room : String) :
    Option (Timeline × RoomState) → Call → Prop
  | none, c => c = .sync room settings.syncLimit
  | some (t, _), c =>
    c = .messages room t.forwardToken .forward Timeline.minimumPagination ∨
      ∃ limit, Timeline.minimumPagination ≤ limit ∧
        c = .messages room t.backToken .backward limit

def keeping (settings : RoomSettings) (room : String) : Guide (Option (Timeline × RoomState)) where
  take held a := a.bring room held
  asks held c := c.About room → c.Resumes settings room held

namespace Pool

namespace Progress

def bring (room : String) (held : Option (Timeline × RoomState)) :
    Progress → Option (Timeline × RoomState)
  | began _ evicted => if room ∈ evicted then none else held
  | answered a => a.bring room held
  | finished .. => held

def failed : Progress → Bool
  | answered a => a.failed
  | _ => false

end Progress

namespace Log

/-- What is held of a room after all that the log tells. -/
def content (log : Log) (room : String) : Option (Timeline × RoomState) :=
  log.foldl (fun held e => e.2.bring room held) none

/-- The log without the calls that failed. -/
def unfailed (log : Log) : Log := log.filter fun e => !e.2.failed

end Log

end Pool

section

variable {room : String} {held : Option (Timeline × RoomState)} {c : Call}

theorem Answered.bring_error (e : ApiError) : Answered.bring room held ⟨c, .error e⟩ = held := by
  cases c with
  | messages id fromToken direction limit => cases direction <;> rfl
  | sync | publicRooms | resolveAlias => rfl

theorem Answered.bring_of_failed {a : Answered} (h : a.failed = true) :
    a.bring room held = held := by
  obtain ⟨c, e | reply⟩ := a
  · exact bring_error e
  · cases h

theorem Answered.bring_of_not_about (hc : ¬ c.About room) (answer : Except ApiError c.Reply) :
    Answered.bring room held ⟨c, answer⟩ = held := by
  cases answer with
  | error e => exact bring_error e
  | ok reply =>
      cases c with
      | publicRooms | resolveAlias => rfl
      | sync id limit =>
          have hid : id ≠ room := fun heq => hc (congrArg some heq)
          exact if_neg hid
      | messages id fromToken direction limit =>
          have hid : id ≠ room := fun heq => hc (congrArg some heq)
          cases direction <;> exact if_neg hid

end

namespace Pool

variable {settings : RoomSettings} {i : Nat} {w : Worker} {room : String} {now : Time}

theorem map_content_insert_of_ne {other : String} (hother : other ≠ room) (r : Room) :
    (w.rooms.insert other r)[room]?.map Room.content = w.rooms[room]?.map Room.content := by
  rw [StringMap.getElem?_insert, if_neg hother]

theorem map_content_insert (r : Room) :
    (w.rooms.insert room r)[room]?.map Room.content = some r.content := by
  rw [Std.ExtTreeMap.getElem?_insert_self]
  rfl

/-- What a room makes of the answer to its call for newer events is what the answer tells. -/
theorem bring_forwardCall {r : Room} (hr : w.rooms[r.id]? = some r)
    (answer : Except ApiError Messages) :
    Answered.bring room (w.rooms[room]?.map Room.content) ⟨r.forwardCall, answer⟩ =
      (w.rooms.insert r.id (r.receive answer))[room]?.map Room.content := by
  by_cases hroom : r.id = room
  · subst hroom
    rw [hr, map_content_insert]
    cases answer with
    | error e => rfl
    | ok m => exact if_pos rfl
  · rw [map_content_insert_of_ne hroom]
    have hother : ¬ r.forwardCall.About room := fun habout => hroom (Option.some.inj habout)
    exact Answered.bring_of_not_about hother answer

theorem map_content_withRoom {α : Type} (now : Time) (view : Room → α) :
    (w.withRoom now room view).2.rooms[room]?.map Room.content =
      w.rooms[room]?.map Room.content := by
  unfold Worker.withRoom
  split
  · rfl
  · rename_i r hr
    rw [map_content_insert, hr]
    rfl

theorem map_content_memberInfo (now : Time) (user : String) :
    (w.memberInfo settings now room user).2.rooms[room]?.map Room.content =
      w.rooms[room]?.map Room.content := by
  have hview : (w.withRoom now room (Worker.memberReply? settings user)).2.rooms[room]?.map
      Room.content = w.rooms[room]?.map Room.content := map_content_withRoom now _
  unfold Worker.memberInfo
  split <;> simp_all only

/-! ## What a task tells of a room -/

section

variable (settings room)

/-- What is held of a room when a task ends is what the answers tell. -/
abbrev Tells {α : Type} (held : Option (Timeline × RoomState)) (x : Exchange (α × Worker)) : Prop :=
  x.Tracks (keeping settings room) (fun _ _ _ => True)
    (fun held p => p.2.rooms[room]?.map Room.content = held) held

end

theorem tells_done {α : Type} {p : α × Worker}
    (h : p.2.rooms[room]?.map Room.content = w.rooms[room]?.map Room.content) :
    Tells settings room (w.rooms[room]?.map Room.content) (.done p) :=
  .done h

theorem tells_handle_of_ne (hw : w.Filed) {job : Job} (hjob : job.room ≠ room) :
    Tells settings room (w.rooms[room]?.map Room.content) (w.handle settings now job) := by
  have hother {c : Call} (hc : c.About job.room) : ¬ c.About room := fun habout =>
    hjob (Option.some.inj (hc.symm.trans habout))
  refine (Worker.within_handle hw job).tracks ?_ ?_ ?_
  · intro c answer hc
    exact Answered.bring_of_not_about (hother hc) answer
  · intro c hc habout
    exact absurd habout (hother hc)
  · rintro p (hsame | ⟨r, hr, hinsert⟩)
    · rw [hsame]
    · rw [hinsert]
      exact map_content_insert_of_ne hjob r

theorem tells_initialSync (settings : RoomSettings) (now : Time) (room : String) (w : Worker) :
    Tells settings room (w.rooms[room]?.map Room.content) (w.initialSync settings now room) := by
  unfold Worker.initialSync
  cases hr : w.rooms[room]? with
  | some r => exact .done (map_content_insert (r.access now))
  | none =>
      refine .ask (fun _ => rfl) (fun _ => trivial) fun answer => ?_
      cases answer with
      | error e => exact .done (congrArg (Option.map Room.content) hr)
      | ok sync =>
          refine .done ((map_content_insert (.ofSync room now sync)).trans ?_)
          exact (if_pos rfl).symm

theorem tells_eventsPage (hw : w.Filed) (settings : RoomSettings) (now : Time)
    (room anchor : String) (offset : Int) (pageSize : Nat) :
    Tells settings room (w.rooms[room]?.map Room.content)
      (w.eventsPage settings now room anchor offset pageSize) := by
  cases hr : w.rooms[room]? with
  | none =>
      simp only [Worker.eventsPage, hr]
      exact .done (congrArg (Option.map Room.content) hr)
  | some r =>
      have htracks := Worker.tracks_eventsPage hw hr settings now anchor offset pageSize
      refine htracks.lift (fun t => some (t, r.state)) ?_ ?_ (fun _ _ _ _ => trivial) ?_
      · rintro t _ answer ⟨limit, -, rfl⟩
        cases answer with
        | error e => rfl
        | ok m => exact if_pos rfl
      · rintro t c ⟨limit, hlimit, hc⟩ -
        exact .inr ⟨limit, hlimit, hc⟩
      · rintro t ⟨reply, _⟩ rfl
        exact map_content_insert (r.readTo now t)

theorem tells_handle (hw : w.Filed) (settings : RoomSettings) (now : Time) (job : Job)
    (room : String) :
    Tells settings room (w.rooms[room]?.map Room.content) (w.handle settings now job) := by
  by_cases hjob : job.room = room
  · subst hjob
    cases job with
    | initialSync room => exact tells_initialSync settings now room w
    | eventsPage room anchor offset pageSize =>
        exact tells_eventsPage hw settings now room anchor offset pageSize
    | members => exact tells_done (map_content_withRoom now _)
    | servers => exact tells_done (map_content_withRoom now _)
    | aliases => exact tells_done (map_content_withRoom now _)
    | memberInfo room user => exact tells_done (map_content_memberInfo now user)
    | powerLevels => exact tells_done (map_content_withRoom now _)
  · exact tells_handle_of_ne hw hjob

theorem tells_forwardAll (hw : w.Filed) (settings : RoomSettings) (rooms : List String) (n : Nat)
    (room : String) :
    Tells settings room (w.rooms[room]?.map Room.content) (Worker.forwardAll rooms (n, w)) := by
  induction rooms generalizing w n with
  | nil => exact .done rfl
  | cons other rooms ih =>
      cases hr : w.rooms[other]? with
      | none =>
          rw [Worker.forwardAll_cons_of_none hr]
          exact ih hw n
      | some r =>
          obtain rfl : r.id = other := hw other r hr
          rw [Worker.forwardAll_cons_of_some hr]
          refine .ask (fun habout => ?_) (fun _ => trivial) fun answer => ?_
          · obtain rfl : r.id = room := Option.some.inj habout
            rw [hr, Option.map_some]
            exact .inl rfl
          · have hid : (r.receive answer).id = r.id := by
              cases answer <;> rfl
            have hnext := ih (hw.insert hid)
              (n + (Answered.failed ⟨r.forwardCall, answer⟩).toNat)
            rw [← bring_forwardCall hr] at hnext
            exact hnext

theorem tells_perform (hw : w.Filed) (settings : RoomSettings) (i : Nat) (task : Task)
    (room : String) :
    Tells settings room (if room ∈ task.evicted w then none else w.rooms[room]?.map Room.content)
      (perform settings i w task) := by
  cases task with
  | request now job =>
      rw [if_neg (show room ∉ (Task.request now job).evicted w from List.not_mem_nil)]
      exact tells_handle hw settings now job room
  | sweep now rule =>
      have hkept : (if room ∈ (Task.sweep now rule).evicted w then none
          else w.rooms[room]?.map Room.content) =
          (w.evictStale rule now).2.rooms[room]?.map Room.content := by
        rw [getElem?_evictStale]
        split <;> rfl
      rw [hkept]
      change Tells settings room _ (w.sweep rule now i)
      rw [Worker.sweep_eq]
      refine (tells_forwardAll (hw.evictStale rule now) settings _ 0 room).bind
        (fun _ _ _ _ => trivial) fun held p hp => ?_
      exact .done hp

/-! ## What a log tells of a room -/

theorem Log.content_concat (log : Log) (ticket : Nat) (p : Progress) (room : String) :
    content (log ++ [(ticket, p)]) room = p.bring room (log.content room) := by
  rw [content, List.foldl_append]
  rfl

/-- The calls that failed make no difference. -/
theorem Log.content_unfailed (log : Log) (room : String) :
    log.unfailed.content room = log.content room := by
  induction log using List.reverseRecOn with
  | nil => rfl
  | append_singleton log e ih =>
      obtain ⟨ticket, p⟩ := e
      rw [unfailed, List.filter_append, content_concat]
      cases hp : p.failed with
      | false =>
          rw [List.filter_cons_of_pos (by simp [hp]), List.filter_nil, content_concat]
          exact congrArg (fun held => p.bring room held) ih
      | true =>
          rw [List.filter_cons_of_neg (by simp [hp]), List.filter_nil, List.append_nil]
          refine ih.trans ?_
          cases p with
          | began | finished => cases hp
          | answered a => exact (Answered.bring_of_failed hp).symm

/-- At rest a worker holds of a room what its log tells, and amid a task the answers to come tell
the rest. -/
theorem Labours.tells {log : Log} {u : Option (Nat × Underway)} (h : Labours settings i log w u)
    (room : String) :
    (u = none → w.rooms[room]?.map Room.content = log.content room) ∧
      ∀ v ∈ u, Tells settings room (log.content room) v.2.rest := by
  induction h with
  | start => exact ⟨fun _ => by simp [Log.content], nofun⟩
  | @step log ticket p w w' u u' h hproceeds ih =>
      obtain ⟨hrest, hamid⟩ := ih
      rw [Log.content_concat]
      cases hproceeds with
      | began task =>
          refine ⟨nofun, ?_⟩
          rintro v ⟨⟩
          have htells := tells_perform h.filed settings i task room
          rw [hrest rfl] at htells
          exact htells
      | answered task c next answer =>
          refine ⟨nofun, ?_⟩
          rintro v ⟨⟩
          cases hamid _ rfl with
          | ask _ _ hnext => exact hnext answer
      | finished task result =>
          refine ⟨fun _ => ?_, nofun⟩
          cases hamid _ rfl with
          | done hresult => exact hresult

/-- Every call goes on from what the log tells before it. -/
theorem Labours.resumes {before after : Log} {ticket : Nat} {a : Answered}
    {u : Option (Nat × Underway)}
    (h : Labours settings i (before ++ [(ticket, .answered a)] ++ after) w u)
    (habout : a.call.About room) : a.call.Resumes settings room (before.content room) := by
  obtain ⟨_, _, h⟩ := h.of_append
  obtain ⟨w₀, v, v', hbefore, hproceeds, rfl⟩ := h.of_snoc
  cases hproceeds with
  | answered task c next answer =>
      cases (hbefore.tells room).2 _ rfl with
      | ask hc _ _ => exact hc habout

end Pool

namespace Crew

open Pool

variable {σ : Type} {hs : Homeserver σ} {settings : RoomSettings} {numWorkers : Nat} {x : Crew σ}
  {i : Nat} {w : Worker}

/-- A failed call leaves everything as it was, but for the time of the last access to its room.
What a worker at rest holds of a room is what its log tells without the calls that failed, and each
call about a room, whatever failed before it, goes on from there. -/
theorem failed_calls_leave_rooms (hx : Reachable hs settings numWorkers x)
    (hw : x.pool.workers[i]? = some (some w)) :
    w.Withstands settings ∧
    (x.underway i = none →
      ∀ room : String, w.rooms[room]?.map Room.content = (x.log i).unfailed.content room) ∧
    ∀ (before : Log) ticket a after room, x.log i = before ++ [(ticket, .answered a)] ++ after →
      a.call.About room → a.call.Resumes settings room (before.unfailed.content room) := by
  have hlabours := (hx.inOrder.labours hw).1
  refine ⟨hlabours.filed.withstands settings, fun hrest room => ?_, ?_⟩
  · rw [Log.content_unfailed]
    exact (hlabours.tells room).1 hrest
  · intro before ticket a after room hlog habout
    rw [Log.content_unfailed]
    rw [hlog] at hlabours
    exact hlabours.resumes habout

end Crew

/-! Every second call fails, the first one included. A room is loaded by the second load, and the
second search for an event comes to the start of the room. -/

namespace SmallRoom

open Crew Pool

def flaky : Homeserver Nat :=
  ⟨fun c n => (some (if n % 2 = 0 then .error (.http 502) else twoRooms.answer c), n + 1)⟩

def twiceAsked : Crew Nat :=
  (((((Crew.idle (.ofSize 1) 0).ask 0 1 (.initialSync room)).ask 1 2 (.initialSync room)).ask 2 3
    missing).ask 3 4 missing).turns flaky settings (List.replicate 12 0)

theorem reachable_twiceAsked : Crew.Reachable flaky settings 1 twiceAsked :=
  ⟨0, ((((run_ask flaky settings (by decide +kernel) 1 _).trans
    (run_ask flaky settings (by decide +kernel) 2 _)).trans
    (run_ask flaky settings (by decide +kernel) 3 _)).trans
    (run_ask flaky settings (by decide +kernel) 4 _)).trans (run_turns ..)⟩

theorem twiceAsked_has_read_room : ∃ w,
    twiceAsked.pool.workers[0]? = some (some w) ∧ w.Withstands settings ∧
    (twiceAsked.log 0).countP (·.2.failed) = 2 ∧
    w.rooms[room]?.map Room.content = (twiceAsked.log 0).unfailed.content room ∧
    (w.rooms[room]?.map Room.content).map (fun p => (p.1.events.map Event.id, p.1.backToken)) =
      some (["$2", "$0"], "t0") := by
  obtain ⟨w, hw⟩ := exists_of_alive (x := twiceAsked) (i := 0) (by decide +kernel)
  obtain ⟨hwithstands, hheld, -⟩ := failed_calls_leave_rooms reachable_twiceAsked hw
  have hrest : (twiceAsked.underway 0).isNone = true := by decide +kernel
  have hroom := hheld (Option.isNone_iff_eq_none.1 hrest) room
  have hcontent : ((twiceAsked.log 0).unfailed.content room).map
      (fun p => (p.1.events.map Event.id, p.1.backToken)) = some (["$2", "$0"], "t0") := by
    cbv
  exact ⟨w, hw, hwithstands, by decide +kernel, hroom, hroom ▸ hcontent⟩

end SmallRoom

end RoomReader
