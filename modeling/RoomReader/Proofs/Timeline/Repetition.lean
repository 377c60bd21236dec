import RoomReader.Proofs.Timeline.Moves
import RoomReader.Proofs.Timeline.Service
import RoomReader.Proofs.Transcript

namespace RoomReader.Timeline

/-!
# When an event is held twice

A homeserver may leave out the token of an answer as soon as nothing further lies in its direction,
even if that answer shows entries. A timeline then asks again from where that answer began. Each
direction can therefore bring events twice, but only in answers after one without a token: all
others continue where the token pointed, and the two directions never meet.
-/

/-- A homeserver whose answers are stretches of a log of distinct entries, of any length. Nothing
further lies beyond an answer without a token. -/
structure ServesStretches {σ : Type} (hs : Homeserver σ) (room : String) (log : σ → List Event) :
    Prop where
  grows : ∀ c s, Grows log s (hs.respond c s).2
  distinct : ∀ s, ((log s).map Event.id).Nodup
  sync : ∀ {limit s r s'}, hs.respond (.sync room limit) s = (some (.ok r), s') →
    ∃ n, Latest (log s') n r
  older : ∀ {p limit s m s'}, p ≤ (log s).length → 0 < limit →
    hs.respond (.messages room (Position.token p) .backward limit) s = (some (.ok m), s') →
    ∃ n, Older (log s') p n m ∧ (m.endToken = none → n = p)
  newer : ∀ {p limit s m s'}, p ≤ (log s).length → 0 < limit →
    hs.respond (.messages room (Position.token p) .forward limit) s = (some (.ok m), s') →
    ∃ n, Newer (log s') p n m ∧ (m.endToken = none → p + n = (log s').length)

/-- What was answered to the calls in one direction. -/
def answersIn (direction : Direction) (transcript : List Answered) : List Messages :=
  transcript.filterMap fun a =>
    match a with
    | ⟨.messages _ _ d _, .ok m⟩ => if d = direction then some m else none
    | _ => none

def keptIds (m : Messages) : List String := (kept m.chunk).map Event.id

/-- An older answer has a place before `b₀`. With a token it does not reach beyond `b`, and without
one it reaches the start of the log. -/
def LiesBefore (l : List Event) (b b₀ : Nat) (m : Messages) : Prop :=
  ∃ p n, Older l p n m ∧ b ≤ p ∧ p ≤ b₀ ∧ (m.endToken ≠ none → b ≤ p - n) ∧
    (m.endToken = none → n = p)

/-- A newer answer has a place after `f₀`. With a token it does not reach beyond `f`. -/
def LiesAfter (l : List Event) (f₀ f : Nat) (m : Messages) : Prop :=
  ∃ p n, Newer l p n m ∧ f₀ ≤ p ∧ p ≤ f ∧ (m.endToken ≠ none → p + n ≤ f)

/-- The buffer holds what the seed and all answers brought, newest first. -/
structure Gathered (l : List Event) (t : Timeline) (b₀ f₀ b f : Nat) (older newer : List Messages) :
    Prop where
  le : b₀ ≤ f₀
  back_le : b ≤ b₀
  le_forward : f₀ ≤ f
  le_length : f ≤ l.length
  backToken : t.backToken = Position.token b
  forwardToken : t.forwardToken = Position.token f
  events : t.events.map Event.id = (newer.flatMap keptIds).reverse ++
    (((kept (between l b₀ f₀)).map Event.id).reverse ++ older.flatMap keptIds)
  before : ∀ m ∈ older, LiesBefore l b b₀ m
  after : ∀ m ∈ newer, LiesAfter l f₀ f m
  olderApart : older.Pairwise fun m n => m.endToken ≠ none → (keptIds m).Disjoint (keptIds n)
  olderWithin : older.Pairwise fun m n => m.endToken = none → keptIds n ⊆ keptIds m
  newerApart : newer.Pairwise fun m n => m.endToken ≠ none → (keptIds m).Disjoint (keptIds n)

section

variable {l l' : List Event} {t : Timeline} {b₀ f₀ b f n i j k p : Nat} {m : Messages}
  {older newer : List Messages}

theorem disjoint_between (hl : (l.map Event.id).Nodup) (hjk : j ≤ k) :
    ((between l i j).map Event.id).Disjoint ((between l k p).map Event.id) := by
  rw [← List.take_append_drop k l, List.map_append] at hl
  have hfirst : between l i j ⊆ l.take k := fun e he =>
    List.take_subset_take_left _ hjk (List.mem_of_mem_drop he)
  have hlast : between l k p ⊆ l.drop k := by
    intro e he
    rw [between, List.drop_take] at he
    exact List.mem_of_mem_take he
  intro id hi hk
  exact (List.nodup_append.1 hl).2.2 id (List.map_subset _ hfirst hi) id
    (List.map_subset _ hlast hk) rfl

theorem nodup_between (hl : (l.map Event.id).Nodup) : ((between l i j).map Event.id).Nodup :=
  hl.sublist (((List.drop_sublist _ _).trans (List.take_sublist _ _)).map _)

theorem kept_ids_subset (l : List Event) : (kept l).map Event.id ⊆ l.map Event.id :=
  (List.filter_sublist.map _).subset

theorem keptIds_subset_of_older (h : Older l p n m) :
    keptIds m ⊆ (between l (p - n) p).map Event.id := by
  intro id hid
  have := kept_ids_subset _ hid
  rw [h.chunk, List.map_reverse, List.mem_reverse] at this
  exact this

theorem keptIds_subset_of_newer (h : Newer l p n m) :
    keptIds m ⊆ (between l p (p + n)).map Event.id := by
  intro id hid
  have := kept_ids_subset _ hid
  rwa [h.chunk] at this

theorem nodup_keptIds_of_chunk (hl : (l.map Event.id).Nodup)
    (hm : m.chunk = between l i j ∨ m.chunk = (between l i j).reverse) : (keptIds m).Nodup := by
  have hkept : ((kept (between l i j)).map Event.id).Nodup :=
    (nodup_between hl).sublist (List.filter_sublist.map _)
  rcases hm with hm | hm
  · rwa [keptIds, hm]
  · rwa [keptIds, hm, kept_reverse, List.map_reverse, List.nodup_reverse]

/-! ## The steps -/

theorem gathered_ofSync (room : String) (now : Time) {sync : InitialSync} (h : Latest l n sync) :
    Gathered l (Room.ofSync room now sync).timeline (l.length - n) l.length (l.length - n) l.length
      [] [] where
  le := Nat.sub_le _ _
  back_le := le_rfl
  le_forward := le_rfl
  le_length := le_rfl
  backToken := by simp [Room.ofSync, ofChunk, h.startToken]
  forwardToken := by simp [Room.ofSync, ofChunk, h.endToken]
  events := by simp [Room.ofSync, ofChunk, h.chunk]
  before := nofun
  after := nofun
  olderApart := .nil
  olderWithin := .nil
  newerApart := .nil

theorem Gathered.of_isPrefix (h : Gathered l t b₀ f₀ b f older newer) (hl : l <+: l') :
    Gathered l' t b₀ f₀ b f older newer where
  le := h.le
  back_le := h.back_le
  le_forward := h.le_forward
  le_length := h.le_length.trans hl.length_le
  backToken := h.backToken
  forwardToken := h.forwardToken
  events := by rw [h.events, between_eq_of_isPrefix hl (h.le_forward.trans h.le_length)]
  before m hm := by
    obtain ⟨p, n, ⟨hle, hchunk, htoken⟩, hb, hp, hend⟩ := h.before m hm
    have hlength : p ≤ l.length := hp.trans (h.le.trans (h.le_forward.trans h.le_length))
    refine ⟨p, n, ⟨hle, ?_, htoken⟩, hb, hp, hend⟩
    rw [hchunk, between_eq_of_isPrefix hl hlength]
  after m hm := by
    obtain ⟨p, n, ⟨hle, hchunk, htoken⟩, hf, hp, hend⟩ := h.after m hm
    refine ⟨p, n, ⟨hle.trans hl.length_le, ?_, htoken⟩, hf, hp, hend⟩
    rw [hchunk, between_eq_of_isPrefix hl hle]
  olderApart := h.olderApart
  olderWithin := h.olderWithin
  newerApart := h.newerApart

/-- Older entries come from before the old end, where no answer with a token reaches and every
answer without one does. -/
theorem Gathered.extendBack (h : Gathered l t b₀ f₀ b f older newer)
    (hl : (l.map Event.id).Nodup) (hm : Older l b n m) (hclosed : m.endToken = none → n = b) :
    ∃ b', Gathered l (t.extendBack m) b₀ f₀ b' f (older ++ [m]) newer := by
  obtain ⟨b', hb', htoken, hend⟩ : ∃ b' ≤ b, m.endToken.getD t.backToken = Position.token b' ∧
      (m.endToken ≠ none → b' ≤ b - n) := by
    cases hm' : m.endToken with
    | none => exact ⟨b, le_rfl, h.backToken, fun hne => absurd rfl hne⟩
    | some token => exact ⟨b - n, Nat.sub_le _ _, hm.endToken token hm', fun _ => le_rfl⟩
  refine ⟨b', h.le, hb'.trans h.back_le, h.le_forward, h.le_length, htoken, h.forwardToken, ?_, ?_,
    h.after, ?_, ?_, h.newerApart⟩
  · simp only [Timeline.extendBack, List.map_append, h.events, List.flatMap_append,
      List.flatMap_singleton, List.append_assoc]
    rfl
  · intro m' hm'
    rcases List.mem_append.1 hm' with hm' | hm'
    · obtain ⟨p, k, hold, hp, hp₀, hk, hk'⟩ := h.before m' hm'
      exact ⟨p, k, hold, hb'.trans hp, hp₀, fun hne => hb'.trans (hk hne), hk'⟩
    · obtain rfl := List.mem_singleton.1 hm'
      exact ⟨b, n, hm, hb', h.back_le, hend, hclosed⟩
  · rw [List.pairwise_append]
    refine ⟨h.olderApart, List.pairwise_singleton _ _, ?_⟩
    intro m' hm' m'' hm'' hne
    obtain rfl := List.mem_singleton.1 hm''
    obtain ⟨p, k, hold, -, -, hk, -⟩ := h.before m' hm'
    have hapart := disjoint_between (i := b - n) (p := p) hl (hk hne)
    exact List.disjoint_of_subset_left (keptIds_subset_of_older hold)
      (List.disjoint_of_subset_right (keptIds_subset_of_older hm)
        fun _ hold hnew => hapart hnew hold)
  · rw [List.pairwise_append]
    refine ⟨h.olderWithin, List.pairwise_singleton _ _, ?_⟩
    intro m' hm' m'' hm'' hnone
    obtain rfl := List.mem_singleton.1 hm''
    obtain ⟨p, k, hold, hp, -, -, hk⟩ := h.before m' hm'
    have hwithin : between l (b - n) b ⊆ between l (p - k) p := by
      rw [hk hnone, Nat.sub_self, between_zero]
      exact fun e he => List.take_subset_take_left _ hp (List.mem_of_mem_drop he)
    rw [keptIds, keptIds, hm.chunk, hold.chunk, kept_reverse, kept_reverse]
    apply List.map_subset
    intro e he
    exact List.mem_reverse.2 (List.filter_subset _ hwithin (List.mem_reverse.1 he))

/-- Newer entries come from after the new end, where no answer with a token reaches. -/
theorem Gathered.extendForward (h : Gathered l t b₀ f₀ b f older newer)
    (hl : (l.map Event.id).Nodup) (hm : Newer l f n m) :
    ∃ f', Gathered l (t.extendForward m) b₀ f₀ b f' older (newer ++ [m]) := by
  obtain ⟨f', hf', hlength, htoken, hend⟩ : ∃ f' ≥ f, f' ≤ l.length ∧
      m.endToken.getD t.forwardToken = Position.token f' ∧ (m.endToken ≠ none → f + n ≤ f') := by
    cases hm' : m.endToken with
    | none => exact ⟨f, le_rfl, h.le_length, h.forwardToken, fun hne => absurd rfl hne⟩
    | some token =>
        exact ⟨f + n, Nat.le_add_right _ _, hm.le, hm.endToken token hm', fun _ => le_rfl⟩
  refine ⟨f', h.le, h.back_le, h.le_forward.trans hf', hlength, h.backToken, htoken, ?_, h.before,
    ?_, h.olderApart, h.olderWithin, ?_⟩
  · simp only [Timeline.extendForward, List.map_append, List.map_reverse, h.events,
      List.flatMap_append, List.flatMap_singleton, List.reverse_append, List.append_assoc]
    rfl
  · intro m' hm'
    rcases List.mem_append.1 hm' with hm' | hm'
    · obtain ⟨p, k, hnew, hp₀, hp, hk⟩ := h.after m' hm'
      exact ⟨p, k, hnew, hp₀, hp.trans hf', fun hne => (hk hne).trans hf'⟩
    · obtain rfl := List.mem_singleton.1 hm'
      exact ⟨f, n, hm, h.le_forward, hf', hend⟩
  · rw [List.pairwise_append]
    refine ⟨h.newerApart, List.pairwise_singleton _ _, ?_⟩
    intro m' hm' m'' hm'' hne
    obtain rfl := List.mem_singleton.1 hm''
    obtain ⟨p, k, hnew, -, -, hk⟩ := h.after m' hm'
    have hapart := disjoint_between (i := p) (p := f + n) hl (hk hne)
    exact List.disjoint_of_subset_left (keptIds_subset_of_newer hnew)
      (List.disjoint_of_subset_right (keptIds_subset_of_newer hm) hapart)

/-! ## What is held twice -/

theorem nodup_flatMap_keptIds_iff {answers : List Messages}
    (hnodup : ∀ m ∈ answers, (keptIds m).Nodup)
    (hapart : answers.Pairwise fun m n => m.endToken ≠ none → (keptIds m).Disjoint (keptIds n)) :
    (answers.flatMap keptIds).Nodup ↔
      answers.Pairwise fun m n => m.endToken = none → (keptIds m).Disjoint (keptIds n) := by
  rw [List.nodup_flatMap]
  constructor
  · rintro ⟨-, hall⟩
    refine hall.imp ?_
    intro m n hdisjoint _
    exact hdisjoint
  · intro hnone
    refine ⟨hnodup, (hnone.and hapart).imp ?_⟩
    rintro m n ⟨hmn, hmn'⟩
    by_cases htoken : m.endToken = none
    · exact hmn htoken
    · exact hmn' htoken

/-- Where all that comes after an answer without a token was in it, it must be nothing. -/
theorem pairwise_disjoint_iff_eq_nil {answers : List Messages}
    (hwithin : answers.Pairwise fun m n => m.endToken = none → keptIds n ⊆ keptIds m) :
    (answers.Pairwise fun m n => m.endToken = none → (keptIds m).Disjoint (keptIds n)) ↔
      answers.Pairwise fun m n => m.endToken = none → keptIds n = [] := by
  constructor
  · intro hdisjoint
    refine (hdisjoint.and hwithin).imp ?_
    rintro m n ⟨hmn, hsub⟩ hnone
    apply List.eq_nil_iff_forall_not_mem.2
    intro id hid
    exact hmn hnone (hsub hnone hid) hid
  · intro hnil
    refine hnil.imp ?_
    intro m n hmn hnone
    rw [hmn hnone]
    exact List.disjoint_nil_right _

theorem Gathered.nodup_iff (h : Gathered l t b₀ f₀ b f older newer)
    (hl : (l.map Event.id).Nodup) :
    (t.events.map Event.id).Nodup ↔
      (older.Pairwise fun m n => m.endToken = none → keptIds n = []) ∧
        newer.Pairwise fun m n => m.endToken = none → (keptIds m).Disjoint (keptIds n) := by
  have hseed : ((kept (between l b₀ f₀)).map Event.id) ⊆ (between l b₀ f₀).map Event.id :=
    kept_ids_subset _
  have hseedNodup : ((kept (between l b₀ f₀)).map Event.id).Nodup :=
    (nodup_between hl).sublist (List.filter_sublist.map _)
  have holder : (older.flatMap keptIds).Nodup ↔
      older.Pairwise fun m n => m.endToken = none → keptIds n = [] := by
    rw [← pairwise_disjoint_iff_eq_nil h.olderWithin]
    refine nodup_flatMap_keptIds_iff (fun m hm => ?_) h.olderApart
    obtain ⟨p, n, hold, -⟩ := h.before m hm
    exact nodup_keptIds_of_chunk hl (.inr hold.chunk)
  have hnewer : (newer.flatMap keptIds).Nodup ↔
      newer.Pairwise fun m n => m.endToken = none → (keptIds m).Disjoint (keptIds n) := by
    refine nodup_flatMap_keptIds_iff (fun m hm => ?_) h.newerApart
    obtain ⟨p, n, hnew, -⟩ := h.after m hm
    exact nodup_keptIds_of_chunk hl (.inl hnew.chunk)
  -- The seed lies between the two directions.
  have hseedOlder : ((kept (between l b₀ f₀)).map Event.id).Disjoint (older.flatMap keptIds) := by
    intro id hid hback
    obtain ⟨m, hm, hmid⟩ := List.mem_flatMap.1 hback
    obtain ⟨p, n, hold, -, hp, -, -⟩ := h.before m hm
    exact disjoint_between hl hp (keptIds_subset_of_older hold hmid) (hseed hid)
  have hnewerRest : (newer.flatMap keptIds).Disjoint
      (((kept (between l b₀ f₀)).map Event.id).reverse ++ older.flatMap keptIds) := by
    intro id hforward hrest
    obtain ⟨m, hm, hmid⟩ := List.mem_flatMap.1 hforward
    obtain ⟨p, n, hnew, hp, -⟩ := h.after m hm
    have hnewId := keptIds_subset_of_newer hnew hmid
    rcases List.mem_append.1 hrest with hid | hback
    · exact disjoint_between hl hp (hseed (List.mem_reverse.1 hid)) hnewId
    · obtain ⟨m', hm', hmid'⟩ := List.mem_flatMap.1 hback
      obtain ⟨p', n', hold, -, hp', -, -⟩ := h.before m' hm'
      exact disjoint_between hl (hp'.trans (h.le.trans hp)) (keptIds_subset_of_older hold hmid')
        hnewId
  rw [h.events, List.nodup_append', List.nodup_append', List.nodup_reverse, List.nodup_reverse,
    List.disjoint_reverse_left, List.disjoint_reverse_left, holder, hnewer]
  exact ⟨fun hall => ⟨hall.2.1.2.1, hall.1⟩,
    fun hall => ⟨hall.2, ⟨hseedNodup, hall.1, hseedOlder⟩, hnewerRest⟩⟩

end

/-! ## Runs with a transcript -/

section

variable {σ : Type} {hs : Homeserver σ} {room : String} {log : σ → List Event}
  {x y : Config (σ × List Answered)} {b₀ f₀ b f : Nat}

def GrowsUnnoticed (log : σ → List Event) (s s' : σ × List Answered) : Prop :=
  Grows log s.1 s'.1 ∧ s'.2 = s.2

@[simp] theorem answersIn_append (direction : Direction) (xs ys : List Answered) :
    answersIn direction (xs ++ ys) = answersIn direction xs ++ answersIn direction ys :=
  List.filterMap_append ..

theorem ServesStretches.isPrefix (h : ServesStretches hs room log) {c : Call} {s s' : σ}
    {r : Option (Except ApiError c.Reply)} (hc : hs.respond c s = (r, s')) : log s <+: log s' := by
  simpa only [Grows, hc] using h.grows c s

theorem Gathered.move (h : ServesStretches hs room log)
    (hx : Gathered (log x.server.1) x.timeline b₀ f₀ b f (answersIn .backward x.server.2)
      (answersIn .forward x.server.2))
    (hmove : Move hs.recorded room (GrowsUnnoticed log) x y) :
    ∃ b f, Gathered (log y.server.1) y.timeline b₀ f₀ b f (answersIn .backward y.server.2)
      (answersIn .forward y.server.2) := by
  cases hmove with
  | @older t st s s' limit m hlimit hc =>
      obtain ⟨hc, htranscript⟩ := Homeserver.recorded_respond_eq_some.1 hc
      rw [hx.backToken] at hc
      have hb : b ≤ (log s.1).length :=
        hx.back_le.trans (hx.le.trans (hx.le_forward.trans hx.le_length))
      obtain ⟨n, hm, hclosed⟩ := h.older hb (lt_of_lt_of_le (by decide) hlimit) hc
      obtain ⟨b', hy⟩ := (hx.of_isPrefix (h.isPrefix hc)).extendBack (h.distinct _) hm hclosed
      refine ⟨b', f, ?_⟩
      rw [htranscript, answersIn_append, answersIn_append]
      simpa [answersIn] using hy
  | @newer t st s s' m hc =>
      obtain ⟨hc, htranscript⟩ := Homeserver.recorded_respond_eq_some.1 hc
      rw [hx.forwardToken] at hc
      obtain ⟨n, hm, -⟩ := h.newer hx.le_length (by decide) hc
      obtain ⟨f', hy⟩ := (hx.of_isPrefix (h.isPrefix hc)).extendForward (h.distinct _) hm
      refine ⟨b, f', ?_⟩
      rw [htranscript, answersIn_append, answersIn_append]
      simpa [answersIn] using hy
  | @failed t st s s' c e hc =>
      obtain ⟨hc, htranscript⟩ := Homeserver.recorded_respond_eq_some.1 hc
      have hsilent (direction : Direction) : answersIn direction [⟨c, .error e⟩] = [] := by
        cases c <;> rfl
      refine ⟨b, f, ?_⟩
      rw [htranscript, answersIn_append, answersIn_append, hsilent, hsilent, List.append_nil,
        List.append_nil]
      exact hx.of_isPrefix (h.isPrefix hc)
  | grown hgrown =>
      refine ⟨b, f, ?_⟩
      rw [hgrown.2]
      exact hx.of_isPrefix hgrown.1

theorem Gathered.run (h : ServesStretches hs room log)
    (hx : Gathered (log x.server.1) x.timeline b₀ f₀ b f (answersIn .backward x.server.2)
      (answersIn .forward x.server.2))
    (hrun : Run hs.recorded room (GrowsUnnoticed log) x y) :
    ∃ b f, Gathered (log y.server.1) y.timeline b₀ f₀ b f (answersIn .backward y.server.2)
      (answersIn .forward y.server.2) := by
  replace hrun := moves_of_run hrun
  induction hrun with
  | refl => exact ⟨b, f, hx⟩
  | tail _ hmove ih =>
      obtain ⟨b₁, f₁, hy⟩ := ih
      exact hy.move h hmove

/-- A timeline that is seeded and then used holds no event twice exactly if nothing more was brought
by older answers once one of them came without a token, and no newer answer brought again what an
earlier one without a token had brought. -/
theorem nodup_iff_no_answer_repeats {t : Timeline} {st : RoomState} {s : σ}
    (h : ServesStretches hs room log) (hseed : Seeded hs room ⟨t, st, s⟩)
    (hrun : Run hs.recorded room (GrowsUnnoticed log) ⟨t, st, s, []⟩ x) :
    (x.timeline.events.map Event.id).Nodup ↔
      ((answersIn .backward x.server.2).Pairwise fun m n =>
        m.endToken = none → keptIds n = []) ∧
      (answersIn .forward x.server.2).Pairwise fun m n =>
        m.endToken = none → (keptIds m).Disjoint (keptIds n) := by
  obtain ⟨limit, s₀, sync, now, hsync, htimeline⟩ := hseed
  obtain ⟨n, hlatest⟩ := h.sync hsync
  have hx₀ := gathered_ofSync room now hlatest
  rw [← htimeline] at hx₀
  obtain ⟨b, f, hx⟩ := Gathered.run (x := ⟨t, st, s, []⟩) h hx₀ hrun
  exact hx.nodup_iff (h.distinct _)

end

end RoomReader.Timeline

/-! The small room on a homeserver that leaves a token out as soon as nothing further lies in its
direction. When its page is read a second time, the oldest message comes a second time too. -/

namespace RoomReader.SmallRoom

open RoomReader.Timeline

/-- The answer without its token if that names an end of the log. -/
def curt (edge : Nat) (m : Messages) : Messages :=
  { m with endToken := m.endToken.filter (· != Position.token edge) }

def roomLog : RoomLog := { history := log }

def curtServer : Homeserver Unit where
  respond
    | .sync _ limit, s => (some (.ok (roomLog.sync limit)), s)
    | .messages _ fromToken .backward limit, s =>
      (some (.ok (curt 0 (roomLog.messages fromToken .backward limit))), s)
    | .messages _ fromToken .forward limit, s =>
      (some (.ok (curt log.length (roomLog.messages fromToken .forward limit))), s)
    | .publicRooms, s => (some (.ok {}), s)
    | .resolveAlias _, s => (some (.error LogServer.noAlias), s)

theorem endToken_of_curt_eq_some {edge : Nat} {m : Messages} {token : String}
    (h : (curt edge m).endToken = some token) : m.endToken = some token :=
  Option.eq_some_of_filter_eq_some h

theorem endToken_of_curt_eq_none {edge : Nat} {m : Messages} (h : (curt edge m).endToken = none) :
    m.endToken = none ∨ m.endToken = some (Position.token edge) := by
  cases hm : m.endToken with
  | none => exact .inl rfl
  | some token =>
      right
      simpa [curt, hm] using h

theorem servesStretches_curtServer : ServesStretches curtServer room fun _ => log where
  grows _ _ := List.prefix_rfl
  distinct _ := by decide
  sync h := by
    cases h
    exact ⟨_, roomLog.latest_sync⟩
  older {p limit s m s'} hp hlimit h := by
    cases h
    have hmessages : roomLog.messages (Position.token p) .backward limit = _ := rfl
    obtain ⟨hm, hend⟩ := roomLog.older_messages hp (by decide) hmessages
    refine ⟨_, ⟨hm.le, hm.chunk, ?_⟩, ?_⟩
    · intro token htoken
      exact hm.endToken token (endToken_of_curt_eq_some htoken)
    · intro hnone
      rcases endToken_of_curt_eq_none hnone with hnone | hedge
      · have hlength := hm.length_chunk hp
        rw [hend hnone, List.length_nil] at hlength
        omega
      · have hstart := Position.token_inj.1 (hm.endToken _ hedge)
        omega
  newer {p limit s m s'} hp _ h := by
    cases h
    have hmessages : roomLog.messages (Position.token p) .forward limit = _ := rfl
    obtain ⟨hm, hend⟩ := roomLog.newer_messages hp (by decide) hmessages
    refine ⟨_, ⟨hm.le, hm.chunk, ?_⟩, ?_⟩
    · intro token htoken
      exact hm.endToken token (endToken_of_curt_eq_some htoken)
    · intro hnone
      rcases endToken_of_curt_eq_none hnone with hnone | hedge
      · exact absurd hnone hend
      · exact (Position.token_inj.1 (hm.endToken _ hedge)).symm

def loaded : Config Unit :=
  ⟨{ events := [.message "$2"], backToken := "t2", forwardToken := "t3" }, {}, ()⟩

theorem seeded_loaded : Seeded curtServer room loaded := ⟨1, (), _, 0, rfl, rfl⟩

def readTwice : Config Unit :=
  ⟨{ events := [.message "$2", .message "$0", .message "$0"], backToken := "t2"
     forwardToken := "t3" }, {}, ()⟩

theorem holds_message_twice :
    ServesStretches curtServer room (fun _ => log) ∧
      Reachable curtServer room (Grows fun _ => log) readTwice ∧
        ¬ (readTwice.timeline.events.map Event.id).Nodup := by
  refine ⟨servesStretches_curtServer, ⟨loaded, seeded_loaded, ?_⟩, by decide⟩
  have hfirst : Run curtServer room (Grows fun _ => log) loaded
      ⟨{ loaded.timeline with events := [.message "$2", .message "$0"] }, {}, ()⟩ :=
    .single (.act (.page "" 0 10) rfl)
  exact .tail hfirst (.act (.page "" 0 10) rfl)

def oldest : Answered :=
  ⟨.messages room "t2" .backward 64, .ok (curt 0 (roomLog.messages "t2" .backward 64))⟩

def readTwiceRecorded : Config (Unit × List Answered) :=
  ⟨readTwice.timeline, {}, (), [oldest, oldest]⟩

theorem run_readTwiceRecorded :
    Run curtServer.recorded room (GrowsUnnoticed fun _ => log) ⟨loaded.timeline, {}, (), []⟩
      readTwiceRecorded := by
  have hfirst : Run curtServer.recorded room (GrowsUnnoticed fun _ => log)
      ⟨loaded.timeline, {}, (), []⟩
      ⟨{ loaded.timeline with events := [.message "$2", .message "$0"] }, {}, (), [oldest]⟩ :=
    .single (.act (.page "" 0 10) rfl)
  exact .tail hfirst (.act (.page "" 0 10) rfl)

theorem answer_repeats_in_readTwiceRecorded :
    ¬ (((answersIn .backward [oldest, oldest]).Pairwise fun m n =>
        m.endToken = none → keptIds n = []) ∧
      (answersIn .forward [oldest, oldest]).Pairwise fun m n =>
        m.endToken = none → (keptIds m).Disjoint (keptIds n)) := by
  intro hrepeats
  have hnodup := (nodup_iff_no_answer_repeats servesStretches_curtServer seeded_loaded
    run_readTwiceRecorded).2 hrepeats
  revert hnodup
  decide

end RoomReader.SmallRoom
