import RoomReader.Proofs.Pool.Labour

namespace RoomReader

open Pool

/-!
# A crew of workers

A pool at work whose workers may die. A request is known by a number of its own. A sweep is sent to
the workers one after another, all shares under one number, and requests and other sweeps may come
in between. A worker that makes a call that never comes back dies on the spot: the task that it is
amid and all that is queued for it are lost, and nothing is queued for it any more.
-/

/-- What is noted: a worker gets on with a task, or it dies of a call. -/
inductive Note
  | progress (worker ticket : Nat) (p : Progress)
  | death (worker ticket : Nat) (c : Call)

namespace Note

def progress? (i : Nat) : Note → Option (Nat × Progress)
  | progress j ticket p => if j = i then some (ticket, p) else none
  | death .. => none

def death? (i : Nat) : Note → Option Nat
  | progress .. => none
  | death j ticket _ => if j = i then some ticket else none

/-- The report that a task under some number ended with. -/
def report? (ticket : Nat) : Note → Option SweepReport
  | progress _ t (.finished (.sweep ..) report) => if t = ticket then some report else none
  | _ => none

variable {ticket : Nat}

@[simp] theorem report?_began (i t : Nat) (task : Task) (evicted : List String) :
    (progress i t (.began task evicted)).report? ticket = none := rfl

@[simp] theorem report?_answered (i t : Nat) (a : Answered) :
    (progress i t (.answered a)).report? ticket = none := rfl

@[simp] theorem report?_sweep (i t : Nat) (now : Time) (rule : SweepRule) (report : SweepReport) :
    (progress i t (.finished (.sweep now rule) report)).report? ticket =
      if t = ticket then some report else none := rfl

@[simp] theorem report?_death (i t : Nat) (c : Call) : (death i t c).report? ticket = none := rfl

end Note

/-- While a worker is amid a task, the pool has it as it was before. -/
structure Crew (σ : Type) where
  pool : Pool
  queue : Nat → List Post
  underway : Nat → Option (Nat × Underway)
  /-- What was sent to whom. -/
  sent : List (Nat × Post)
  server : σ
  history : List Note

/-- How things stand with one worker. -/
structure Desk where
  worker : Option (Option Worker)
  posts : List Post
  queue : List Post
  underway : Option (Nat × Underway)
  log : Log
  deaths : List Nat

namespace Desk

/-- Nothing reaches the queue of a dead worker. -/
def post (d : Desk) (a : Post) : Desk :=
  { d with
    posts := d.posts ++ [a]
    queue := if d.worker.join.isSome then d.queue ++ [a] else d.queue }

def advance (d : Desk) (ticket : Nat) (p : Progress) (w : Worker) (u : Option Underway)
    (queue : List Post) : Desk :=
  { d with
    worker := some (some w)
    queue := queue
    underway := u.map (Prod.mk ticket)
    log := d.log ++ [(ticket, p)] }

def die (d : Desk) (ticket : Nat) : Desk :=
  { d with worker := some none, queue := [], underway := none, deaths := d.deaths ++ [ticket] }

end Desk

namespace Crew

variable {σ : Type}

def idle (p : Pool) (s : σ) : Crew σ := ⟨p, fun _ => [], fun _ => none, [], s, []⟩

def alive (x : Crew σ) (i : Nat) : Bool := x.pool.workers[i]?.join.isSome

def posts (x : Crew σ) (i : Nat) : List Post := (x.sent.filter (·.1 == i)).map (·.2)

def log (x : Crew σ) (i : Nat) : Log := x.history.filterMap (Note.progress? i)

def deaths (x : Crew σ) (i : Nat) : List Nat := x.history.filterMap (Note.death? i)

def addressed (x : Crew σ) (ticket : Nat) : List Nat :=
  (x.sent.filter (·.2.ticket == ticket)).map (·.1)

def post (x : Crew σ) (i : Nat) (a : Post) : Crew σ :=
  { x with
    queue := if x.alive i then Function.update x.queue i (x.queue i ++ [a]) else x.queue
    sent := x.sent ++ [(i, a)] }

def advance (x : Crew σ) (i ticket : Nat) (p : Progress) (w : Worker) (u : Option Underway)
    (queue : List Post) (s : σ) : Crew σ :=
  { x with
    pool := x.pool.setWorker i (some w)
    queue := Function.update x.queue i queue
    underway := Function.update x.underway i (u.map (Prod.mk ticket))
    server := s
    history := x.history ++ [.progress i ticket p] }

def die (x : Crew σ) (i ticket : Nat) (c : Call) (s : σ) : Crew σ :=
  { x with
    pool := x.pool.setWorker i none
    queue := Function.update x.queue i []
    underway := Function.update x.underway i none
    server := s
    history := x.history ++ [.death i ticket c] }

/-- What a worker needs to get on, and what is then left of its queue and of the homeserver: the
next task in its queue, or an answer. -/
inductive Supply (hs : Homeserver σ) (x : Crew σ) (i ticket : Nat) : Progress → List Post → σ → Prop
  | queued {task : Task} {evicted : List String} {later : List Post}
      (h : x.queue i = ⟨ticket, task⟩ :: later) :
      Supply hs x i ticket (.began task evicted) later x.server
  | answered {c : Call} {answer : Except ApiError c.Reply} {s : σ}
      (h : hs.respond c x.server = (some answer, s)) :
      Supply hs x i ticket (.answered ⟨c, answer⟩) (x.queue i) s
  | finished {task : Task} {result : task.Result} :
      Supply hs x i ticket (.finished task result) (x.queue i) x.server

section

variable (hs : Homeserver σ) (settings : RoomSettings)

inductive Step : Crew σ → Crew σ → Prop
  | request {x : Crew σ} {ticket : Nat} {now : Time} {job : Job}
      (hfresh : ∀ a ∈ x.sent, a.2.ticket ≠ ticket) :
      Step x (x.post (x.pool.workerIndex job.room) ⟨ticket, .request now job⟩)
  /-- The next worker is sent its share of a sweep. -/
  | share {x : Crew σ} {ticket k : Nat} {now : Time} {rule : SweepRule}
      (haddressed : x.addressed ticket = List.range k)
      (hrule : ∀ a ∈ x.sent, a.2.ticket = ticket → ∃ now, a.2.task = .sweep now rule)
      (hk : k < x.pool.numWorkers) : Step x (x.post k ⟨ticket, .sweep now rule⟩)
  | labour {x : Crew σ} {i ticket : Nat} {w w' : Worker} {u u' : Option Underway} {p : Progress}
      {queue : List Post} {s : σ} (hworker : x.pool.workers[i]? = some (some w))
      (hunderway : x.underway i = u.map (Prod.mk ticket))
      (hproceeds : Proceeds settings i w u p w' u') (hsupply : Supply hs x i ticket p queue s) :
      Step x (x.advance i ticket p w' u' queue s)
  | die {x : Crew σ} {i ticket : Nat} {w : Worker} {task : Task} {c : Call}
      {next : Except ApiError c.Reply → Exchange (task.Result × Worker)} {s : σ}
      (hworker : x.pool.workers[i]? = some (some w))
      (hunderway : x.underway i = some (ticket, ⟨task, .ask c next⟩))
      (hdeath : hs.respond c x.server = (none, s)) : Step x (x.die i ticket c s)
  /-- The homeserver changes on its own. -/
  | change {x : Crew σ} (s : σ) : Step x { x with server := s }

abbrev Run : Crew σ → Crew σ → Prop := Relation.ReflTransGen (Step hs settings)

/-- What a pool of some size can come to. -/
def Reachable (numWorkers : Nat) (x : Crew σ) : Prop :=
  ∃ s, Run hs settings (.idle (.ofSize numWorkers) s) x

end

/-! ## One worker at a time -/

def desk (x : Crew σ) (i : Nat) : Desk :=
  { worker := x.pool.workers[i]?
    posts := x.posts i
    queue := x.queue i
    underway := x.underway i
    log := x.log i
    deaths := x.deaths i }

section

variable (x : Crew σ) {i j : Nat}

theorem desk_post_self (i : Nat) (a : Post) : (x.post i a).desk i = (x.desk i).post a := by
  cases hi : x.alive i <;> simp_all [desk, post, posts, log, deaths, Desk.post, alive]

theorem desk_post_of_ne (hij : i ≠ j) (a : Post) : (x.post i a).desk j = x.desk j := by
  cases hi : x.alive i <;>
    simp [desk, post, posts, log, deaths, hi, hij, Function.update_of_ne (Ne.symm hij)]

theorem desk_advance_self (hi : i < x.pool.numWorkers) (ticket : Nat) (p : Progress) (w : Worker)
    (u : Option Underway) (queue : List Post) (s : σ) :
    (x.advance i ticket p w u queue s).desk i = (x.desk i).advance ticket p w u queue := by
  have hget : (x.pool.setWorker i (some w)).workers[i]? = some (some w) := List.getElem?_set_self hi
  simp [desk, advance, posts, log, deaths, Note.progress?, Note.death?, hget, Desk.advance]

theorem desk_advance_of_ne (hij : i ≠ j) (ticket : Nat) (p : Progress) (w : Worker)
    (u : Option Underway) (queue : List Post) (s : σ) :
    (x.advance i ticket p w u queue s).desk j = x.desk j := by
  have hget : (x.pool.setWorker i (some w)).workers[j]? = x.pool.workers[j]? :=
    List.getElem?_set_ne hij
  simp [desk, advance, posts, log, deaths, Note.progress?, Note.death?, hget, hij,
    Function.update_of_ne (Ne.symm hij)]

theorem desk_die_self (hi : i < x.pool.numWorkers) (ticket : Nat) (c : Call) (s : σ) :
    (x.die i ticket c s).desk i = (x.desk i).die ticket := by
  have hget : (x.pool.setWorker i none).workers[i]? = some none := List.getElem?_set_self hi
  simp [desk, die, posts, log, deaths, Note.progress?, Note.death?, hget, Desk.die]

theorem desk_die_of_ne (hij : i ≠ j) (ticket : Nat) (c : Call) (s : σ) :
    (x.die i ticket c s).desk j = x.desk j := by
  have hget : (x.pool.setWorker i none).workers[j]? = x.pool.workers[j]? :=
    List.getElem?_set_ne hij
  simp [desk, die, posts, log, deaths, Note.progress?, Note.death?, hget, hij,
    Function.update_of_ne (Ne.symm hij)]

end

end Crew

/-- A worker that is alive labours on what it was sent. A dead one had come to its log when it died
amid a task, and the rest of what it was sent is lost. -/
inductive Desk.Sound (settings : RoomSettings) (i : Nat) : Desk → Prop
  | absent : Sound settings i ⟨none, [], [], none, [], []⟩
  | alive {w : Worker} {queue : List Post} {u : Option (Nat × Underway)} {log : Log}
      (h : Labours settings i log w u) :
      Sound settings i ⟨some (some w), log.begun ++ queue, queue, u, log, []⟩
  | dead {w : Worker} {lost : List Post} {u : Nat × Underway} {log : Log}
      (h : Labours settings i log w (some u)) :
      Sound settings i ⟨some none, log.begun ++ lost, [], none, log, [u.1]⟩

namespace Desk.Sound

variable {settings : RoomSettings} {i ticket : Nat} {d : Desk} {w w' : Worker}
  {u u' : Option Underway} {p : Progress} {queue : List Post}

theorem post (h : d.Sound settings i) (hd : d.worker ≠ none) (a : Post) :
    (d.post a).Sound settings i := by
  cases h with
  | absent => exact absurd rfl hd
  | alive h =>
      have hposts (log : Log) (queue : List Post) :
          log.begun ++ queue ++ [a] = log.begun ++ (queue ++ [a]) := List.append_assoc ..
      rw [Desk.post, hposts]
      exact .alive h
  | dead h =>
      rw [Desk.post, List.append_assoc]
      exact .dead h

theorem advance (h : d.Sound settings i) (hworker : d.worker = some (some w))
    (hunderway : d.underway = u.map (Prod.mk ticket)) (hproceeds : Proceeds settings i w u p w' u')
    (hqueue : d.queue = (p.begun?.map (Post.mk ticket)).toList ++ queue) :
    (d.advance ticket p w' u' queue).Sound settings i := by
  cases h with
  | absent => cases hworker
  | dead h => cases hworker
  | @alive _ before _ log h =>
      cases hworker
      obtain rfl : _ = u.map (Prod.mk ticket) := hunderway
      have hposts : log.begun ++ before = Log.begun (log ++ [(ticket, p)]) ++ queue := by
        have hlast : Log.begun [(ticket, p)] = (p.begun?.map (Post.mk ticket)).toList := by
          cases p <;> rfl
        rw [Log.begun_append, hlast, List.append_assoc, ← hqueue]
      rw [Desk.advance, hposts]
      exact .alive (h.step hproceeds)

theorem die {v : Nat × Underway} (h : d.Sound settings i) (hworker : d.worker = some (some w))
    (hunderway : d.underway = some v) : (d.die v.1).Sound settings i := by
  cases h with
  | absent => cases hworker
  | dead h => cases hworker
  | alive h =>
      obtain rfl : _ = some v := hunderway
      exact .dead h

theorem labours (h : d.Sound settings i) (hworker : d.worker = some (some w)) :
    Labours settings i d.log w d.underway ∧ d.posts = d.log.begun ++ d.queue ∧ d.deaths = [] := by
  cases h with
  | absent => cases hworker
  | dead => cases hworker
  | alive h =>
      cases hworker
      exact ⟨h, rfl, rfl⟩

theorem lost (h : d.Sound settings i) (hworker : d.worker = some none) :
    ∃ w u lost, Labours settings i d.log w (some u) ∧ d.posts = d.log.begun ++ lost ∧
      d.queue = [] ∧ d.underway = none ∧ d.deaths = [u.1] := by
  cases h with
  | absent => cases hworker
  | alive => cases hworker
  | dead h => exact ⟨_, _, _, h, rfl, rfl, rfl, rfl⟩

theorem begun_isPrefix (h : d.Sound settings i) : d.log.begun <+: d.posts := by
  cases h with
  | absent => exact List.nil_prefix ..
  | alive => exact List.prefix_append ..
  | dead => exact List.prefix_append ..

theorem queue_subset (h : d.Sound settings i) : d.queue ⊆ d.posts := by
  cases h with
  | absent => exact List.nil_subset _
  | alive => exact List.subset_append_right ..
  | dead => exact List.nil_subset _

theorem begun_of_underway {v : Underway} (h : d.Sound settings i)
    (hunderway : d.underway = some (ticket, v)) : ⟨ticket, v.task⟩ ∈ d.log.begun := by
  cases h with
  | absent => cases hunderway
  | dead => cases hunderway
  | alive h =>
      obtain rfl : _ = some (ticket, v) := hunderway
      simp [h.begun_eq]

theorem rests_or_alive (h : d.Sound settings i) :
    d.queue = [] ∧ d.underway = none ∨ ∃ w, d.worker = some (some w) := by
  cases h with
  | absent => exact .inl ⟨rfl, rfl⟩
  | dead => exact .inl ⟨rfl, rfl⟩
  | alive => exact .inr ⟨_, rfl⟩

theorem exists_labours (h : d.Sound settings i) : ∃ w u, Labours settings i d.log w u := by
  cases h with
  | absent => exact ⟨_, _, .start⟩
  | alive h => exact ⟨_, _, h⟩
  | dead h => exact ⟨_, _, h⟩

end Desk.Sound

namespace Crew

variable {σ : Type} {hs : Homeserver σ} {settings : RoomSettings} {numWorkers : Nat} {x y : Crew σ}
  {i j : Nat}

/-- Requests are sent to the worker that owns their room, and numbers tell tasks apart. -/
structure Ticketed (x : Crew σ) : Prop where
  owner : ∀ a ∈ x.sent, a.1 < x.pool.numWorkers ∧ a.2.task.IsFor x.pool a.1
  differ : x.sent.Pairwise fun a b => a.1 = b.1 → a.2.ticket ≠ b.2.ticket
  single : ∀ a ∈ x.sent, ∀ now job, a.2.task = .request now job → ∀ b ∈ x.sent,
    b.2.ticket = a.2.ticket → b = a

theorem numWorkers_eq_of_step (hstep : Step hs settings x y) :
    y.pool.numWorkers = x.pool.numWorkers := by
  cases hstep <;> first | rfl | exact numWorkers_setWorker ..

theorem numWorkers_eq_of_run (hrun : Run hs settings x y) :
    y.pool.numWorkers = x.pool.numWorkers := by
  induction hrun with
  | refl => rfl
  | tail _ hstep ih => exact (numWorkers_eq_of_step hstep).trans ih

theorem Supply.queue_eq {ticket : Nat} {p : Progress} {queue : List Post} {s : σ}
    (h : x.Supply hs i ticket p queue s) :
    x.queue i = (p.begun?.map (Post.mk ticket)).toList ++ queue := by
  cases h with
  | queued h => exact h
  | answered h => rfl
  | finished => rfl

theorem lt_of_getElem? {w : Option Worker} (h : x.pool.workers[i]? = some w) :
    i < x.pool.numWorkers :=
  (List.getElem?_eq_some_iff.1 h).1

theorem exists_of_alive (h : x.alive i = true) : ∃ w, x.pool.workers[i]? = some (some w) := by
  obtain ⟨w, hw⟩ := Option.isSome_iff_exists.1 h
  exact ⟨w, Option.join_eq_some_iff.1 hw⟩

theorem Step.sound (hstep : Step hs settings x y) (hpos : 0 < x.pool.numWorkers)
    (hsound : ∀ j, (x.desk j).Sound settings j) (j : Nat) : (y.desk j).Sound settings j := by
  have hpost {i : Nat} {a : Post} (hi : i < x.pool.numWorkers) :
      ((x.post i a).desk j).Sound settings j := by
    by_cases hij : i = j
    · subst hij
      rw [desk_post_self]
      exact (hsound i).post (by simpa [desk, numWorkers] using hi) a
    · rw [desk_post_of_ne x hij]
      exact hsound j
  cases hstep with
  | request hfresh => exact hpost (Shard.ofRoom_lt _ hpos)
  | share haddressed hrule hk => exact hpost hk
  | @labour i ticket w w' u u' p queue s hworker hunderway hproceeds hsupply =>
      by_cases hij : i = j
      · subst hij
        rw [desk_advance_self x (lt_of_getElem? hworker)]
        exact (hsound i).advance hworker hunderway hproceeds hsupply.queue_eq
      · rw [desk_advance_of_ne x hij]
        exact hsound j
  | @die i ticket w task c next s hworker hunderway hdeath =>
      by_cases hij : i = j
      · subst hij
        rw [desk_die_self x (lt_of_getElem? hworker)]
        exact (hsound i).die hworker hunderway
      · rw [desk_die_of_ne x hij]
        exact hsound j
  | change s => exact hsound j

theorem Step.log_eq_or_proceeds (hstep : Step hs settings x y) (j : Nat) :
    y.log j = x.log j ∨ ∃ ticket p w u w' u', x.pool.workers[j]? = some (some w) ∧
      x.underway j = u.map (Prod.mk ticket) ∧ Proceeds settings j w u p w' u' ∧
      y.log j = x.log j ++ [(ticket, p)] ∧ y.pool.workers[j]? = some (some w') := by
  cases hstep with
  | request | share | change => exact .inl rfl
  | @labour i ticket w w' u u' p queue s hworker hunderway hproceeds hsupply =>
      by_cases hij : i = j
      · subst hij
        have hdesk := desk_advance_self x (lt_of_getElem? hworker) ticket p w' u' queue s
        exact .inr ⟨_, _, _, _, _, _, hworker, hunderway, hproceeds, congrArg Desk.log hdesk,
          congrArg Desk.worker hdesk⟩
      · exact .inl (congrArg Desk.log (desk_advance_of_ne x hij ticket p w' u' queue s))
  | @die i ticket w task c next s hworker hunderway hdeath =>
      refine .inl ?_
      by_cases hij : i = j
      · subst hij
        exact congrArg Desk.log (desk_die_self x (lt_of_getElem? hworker) ticket c s)
      · exact congrArg Desk.log (desk_die_of_ne x hij ticket c s)

theorem Ticketed.post {a : Post} (h : x.Ticketed) (hi : i < x.pool.numWorkers)
    (howner : a.task.IsFor x.pool i) (hnew : ∀ b ∈ x.sent, b.1 = i → b.2.ticket ≠ a.ticket)
    (hkind : ∀ b ∈ x.sent, b.2.ticket = a.ticket →
      ∃ now rule now' rule', a.task = .sweep now rule ∧ b.2.task = .sweep now' rule') :
    (x.post i a).Ticketed := by
  refine ⟨?_, ?_, ?_⟩
  · intro b hb
    rcases List.mem_append.1 hb with hb | hb
    · exact h.owner b hb
    · cases List.mem_singleton.1 hb
      exact ⟨hi, howner⟩
  · refine List.pairwise_append.2 ⟨h.differ, List.pairwise_singleton .., ?_⟩
    intro b hb c hc
    cases List.mem_singleton.1 hc
    exact hnew b hb
  · intro b hb now job hrequest c hc hsame
    rcases List.mem_append.1 hb with hb | hb <;> rcases List.mem_append.1 hc with hc | hc
    · exact h.single b hb now job hrequest c hc hsame
    -- A number that comes twice is that of a sweep.
    · cases List.mem_singleton.1 hc
      obtain ⟨_, _, _, _, -, hsweep⟩ := hkind b hb hsame.symm
      rw [hrequest] at hsweep
      cases hsweep
    · cases List.mem_singleton.1 hb
      obtain ⟨_, _, _, _, hsweep, -⟩ := hkind c hc hsame
      rw [hrequest] at hsweep
      cases hsweep
    · cases List.mem_singleton.1 hb
      exact List.mem_singleton.1 hc

theorem Ticketed.setWorker {y : Crew σ} {w : Option Worker} (h : x.Ticketed)
    (hpool : y.pool = x.pool.setWorker i w) (hsent : y.sent = x.sent) : y.Ticketed := by
  refine ⟨?_, hsent ▸ h.differ, hsent ▸ h.single⟩
  intro a ha
  rw [hsent] at ha
  obtain ⟨hlt, howner⟩ := h.owner a ha
  rw [hpool, numWorkers_setWorker]
  exact ⟨hlt, fun room hroom => (workerIndex_setWorker ..).trans (howner room hroom)⟩

theorem Step.ticketed (hstep : Step hs settings x y) (hpos : 0 < x.pool.numWorkers)
    (h : x.Ticketed) : y.Ticketed := by
  cases hstep with
  | request hfresh =>
      exact h.post (Shard.ofRoom_lt _ hpos) (Task.isFor_request rfl) (fun b hb _ => hfresh b hb)
        fun b hb hsame => absurd hsame (hfresh b hb)
  | @share ticket k now rule haddressed hrule hk =>
      refine h.post hk Task.isFor_sweep ?_ ?_
      · rintro b hb rfl hsame
        have hmem : b.1 ∈ x.addressed ticket :=
          List.mem_map_of_mem (List.mem_filter.2 ⟨hb, beq_iff_eq.2 hsame⟩)
        rw [haddressed, List.mem_range] at hmem
        exact absurd hmem (Nat.lt_irrefl _)
      · intro b hb hsame
        obtain ⟨now', hb⟩ := hrule b hb hsame
        exact ⟨now, rule, now', rule, rfl, hb⟩
  | labour => exact h.setWorker rfl rfl
  | die => exact h.setWorker rfl rfl
  | change s => exact ⟨h.owner, h.differ, h.single⟩

structure InOrder (settings : RoomSettings) (x : Crew σ) : Prop where
  pos : 0 < x.pool.numWorkers
  ticketed : x.Ticketed
  sound : ∀ j, (x.desk j).Sound settings j

theorem inOrder_idle (settings : RoomSettings) (numWorkers : Nat) (s : σ) :
    (idle (.ofSize numWorkers) s).InOrder settings := by
  refine ⟨?_, ⟨nofun, .nil, nofun⟩, fun j => ?_⟩
  · have hsize : (idle (.ofSize numWorkers) s).pool.numWorkers = max numWorkers 1 :=
      List.length_replicate
    rw [hsize]
    exact Nat.le_max_right ..
  · by_cases hj : j < max numWorkers 1
    · have hdesk : (idle (.ofSize numWorkers) s).desk j =
          ⟨some (some {}), Log.begun [] ++ [], [], none, [], []⟩ := by
        simp [desk, idle, ofSize, hj, posts, log, deaths, Log.begun]
      rw [hdesk]
      exact .alive .start
    · have hdesk : (idle (.ofSize numWorkers) s).desk j = ⟨none, [], [], none, [], []⟩ := by
        simp [desk, idle, ofSize, hj, posts, log, deaths]
      rw [hdesk]
      exact .absent

theorem InOrder.run (hrun : Run hs settings x y) (h : x.InOrder settings) : y.InOrder settings := by
  induction hrun with
  | refl => exact h
  | tail _ hstep ih =>
      exact ⟨(numWorkers_eq_of_step hstep).symm ▸ ih.pos, hstep.ticketed ih.pos ih.ticketed,
        hstep.sound ih.pos ih.sound⟩

theorem Reachable.inOrder (hx : Reachable hs settings numWorkers x) : x.InOrder settings := by
  obtain ⟨s, hrun⟩ := hx
  exact (inOrder_idle settings numWorkers s).run hrun

theorem InOrder.labours {w : Worker} (h : x.InOrder settings)
    (hw : x.pool.workers[i]? = some (some w)) :
    Labours settings i (x.log i) w (x.underway i) ∧ x.posts i = (x.log i).begun ++ x.queue i := by
  obtain ⟨hlabours, hposts, -⟩ := (h.sound i).labours hw
  exact ⟨hlabours, hposts⟩

theorem InOrder.exists_labours (h : x.InOrder settings) (i : Nat) :
    ∃ w u, Labours settings i (x.log i) w u :=
  (h.sound i).exists_labours

theorem Reachable.numWorkers_eq (hx : Reachable hs settings numWorkers x) :
    x.pool.numWorkers = max numWorkers 1 := by
  obtain ⟨s, hrun⟩ := hx
  exact (numWorkers_eq_of_run hrun).trans List.length_replicate

/-! ## Running a crew -/

section

variable (hs : Homeserver σ) (settings : RoomSettings) (x : Crew σ)

/-- A worker's turn: it gets on, or it dies of its call. -/
def turn (i : Nat) : Crew σ :=
  match x.pool.workers[i]? with
  | some (some w) =>
    match x.underway i with
    | none =>
      match x.queue i with
      | [] => x
      | a :: later =>
        x.advance i a.ticket (.began a.task (a.task.evicted w)) w
          (some ⟨a.task, perform settings i w a.task⟩) later x.server
    | some (ticket, ⟨task, .ask c next⟩) =>
      match hs.respond c x.server with
      | (some answer, s) =>
        x.advance i ticket (.answered ⟨c, answer⟩) w (some ⟨task, next answer⟩) (x.queue i) s
      | (none, s) => x.die i ticket c s
    | some (ticket, ⟨task, .done (result, w')⟩) =>
      x.advance i ticket (.finished task result) w' none (x.queue i) x.server
  | _ => x

theorem turn_eq_or_step (i : Nat) :
    x.turn hs settings i = x ∨ Step hs settings x (x.turn hs settings i) := by
  unfold turn
  split
  · rename_i w hworker
    split
    · rename_i hunderway
      split
      · exact .inl rfl
      · rename_i a later hqueue
        exact .inr (.labour (u := none) hworker hunderway (.began w a.task) (.queued hqueue))
    · rename_i ticket task c next hunderway
      split
      · rename_i answer s hanswer
        exact .inr (.labour (u := some ⟨task, .ask c next⟩) hworker hunderway
          (.answered w task c next answer) (.answered hanswer))
      · exact .inr (.die hworker hunderway ‹_›)
    · rename_i ticket task result w' hunderway
      exact .inr (.labour (u := some ⟨task, .done (result, w')⟩) hworker hunderway
        (.finished w task result w') .finished)
  · exact .inl rfl

theorem run_turn (i : Nat) : Run hs settings x (x.turn hs settings i) := by
  rcases turn_eq_or_step hs settings x i with hsame | hstep
  · rw [hsame]
  · exact .single hstep

def turns (schedule : List Nat) : Crew σ := schedule.foldl (turn hs settings) x

theorem run_turns (schedule : List Nat) : Run hs settings x (x.turns hs settings schedule) := by
  unfold turns
  induction schedule generalizing x with
  | nil => exact .refl
  | cons i schedule ih => exact (run_turn hs settings x i).trans (ih _)

def ask (ticket : Nat) (now : Time) (job : Job) : Crew σ :=
  x.post (x.pool.workerIndex job.room) ⟨ticket, .request now job⟩

def shares (ticket : Nat) (now : Time) (rule : SweepRule) (n : Nat) : Crew σ :=
  (List.range n).foldl (fun x k => x.post k ⟨ticket, .sweep now rule⟩) x

theorem shares_succ (ticket : Nat) (now : Time) (rule : SweepRule) (n : Nat) :
    x.shares ticket now rule (n + 1) =
      (x.shares ticket now rule n).post n ⟨ticket, .sweep now rule⟩ := by
  rw [shares, List.range_succ, List.foldl_append]
  rfl

theorem pool_shares (ticket : Nat) (now : Time) (rule : SweepRule) (n : Nat) :
    (x.shares ticket now rule n).pool = x.pool := by
  induction n with
  | zero => rfl
  | succ n ih => rwa [shares_succ]

theorem sent_shares (ticket : Nat) (now : Time) (rule : SweepRule) (n : Nat) :
    (x.shares ticket now rule n).sent =
      x.sent ++ (List.range n).map fun k => (k, ⟨ticket, .sweep now rule⟩) := by
  induction n with
  | zero => simp [shares]
  | succ n ih =>
      rw [shares_succ, post, ih, List.range_succ, List.map_append, List.append_assoc]
      rfl

variable {x}

theorem addressed_shares {ticket : Nat} (hfresh : ∀ a ∈ x.sent, a.2.ticket ≠ ticket) (now : Time)
    (rule : SweepRule) (n : Nat) :
    (x.shares ticket now rule n).addressed ticket = List.range n := by
  have hold : x.sent.filter (·.2.ticket == ticket) = [] := by
    rw [List.filter_eq_nil_iff]
    intro a ha
    simpa using hfresh a ha
  simp [addressed, sent_shares, hold, List.filter_map, Function.comp_def]

theorem sweep_of_mem_shares {ticket : Nat} (hfresh : ∀ a ∈ x.sent, a.2.ticket ≠ ticket) {now : Time}
    {rule : SweepRule} {n : Nat} {a : Nat × Post} (ha : a ∈ (x.shares ticket now rule n).sent)
    (hticket : a.2.ticket = ticket) : a.2.task = .sweep now rule := by
  rw [sent_shares] at ha
  rcases List.mem_append.1 ha with ha | ha
  · exact absurd hticket (hfresh a ha)
  · obtain ⟨k, -, rfl⟩ := List.mem_map.1 ha
    rfl

theorem run_ask {ticket : Nat} (hfresh : ∀ a ∈ x.sent, a.2.ticket ≠ ticket) (now : Time)
    (job : Job) : Run hs settings x (x.ask ticket now job) :=
  .single (.request hfresh)

theorem run_shares {ticket : Nat} (hfresh : ∀ a ∈ x.sent, a.2.ticket ≠ ticket) (now : Time)
    (rule : SweepRule) {n : Nat} (hn : n ≤ x.pool.numWorkers) :
    Run hs settings x (x.shares ticket now rule n) := by
  induction n with
  | zero => exact .refl
  | succ n ih =>
      rw [shares_succ]
      refine (ih (Nat.le_of_lt hn)).tail (.share (addressed_shares hfresh now rule n)
        (fun a ha hticket => ⟨now, sweep_of_mem_shares hfresh ha hticket⟩) ?_)
      rw [pool_shares]
      exact hn

end

end Crew

end RoomReader
