import RoomReader.Proofs.Timeline.Paging

namespace RoomReader.Timeline

/-!
# Reading a page again

A read asks for what its page and the margin lack, and for no fewer than 64 events. If less than
that was lacking, the buffer then reaches beyond the margin, and the page can be read again without
a call. Otherwise the buffer ends exactly with the margin, which still counts as too short: the next
read of the same page asks for 64 events more, and only the one after it makes no call.
-/

section

variable {l : List Event} {t : Timeline} {b f a offset pageSize : Nat} {anchor : String}

/-- Without redactions every entry of a stretch is held. -/
theorem Mirrors.length_add_eq (h : Mirrors l t b f) (hplain : ∀ e ∈ l, e.isRedaction = false) :
    t.length + b = f := by
  have hkept : kept (between l b f) = between l b f := by
    refine List.filter_eq_self.2 fun e he => ?_
    rw [hplain e ((between_sublist l b f).subset he), Bool.not_false]
  have hlength : t.length = f - b := by
    rw [length, h.events, hkept, List.length_reverse, length_between h.le_length]
  have hle := h.le
  omega

theorem Mirrors.historicEnd_eq_false (h : Mirrors l t b f) (hb : 0 < b) :
    t.historicEndReached = false := by
  refine Bool.eq_false_iff.2 fun hend => ?_
  exact Nat.ne_of_gt hb (h.historicEnd hend)

/-- A page is read without a call if the buffer reaches beyond it and its margin. -/
theorem IndexOf.getPage_eq_done (h : t.IndexOf anchor a) (room : String)
    (hlt : wanted a offset pageSize < t.length) :
    t.getPage room anchor (offset : Int) pageSize =
      .done (.ok (t.window a (offset : Int) pageSize), t) := by
  have hreach : t.reach room (wanted a offset pageSize) = .done t := by
    simp [reach, Nat.not_le.2 hlt]
  rw [getPage, h.anchorIndex_eq, Exchange.done_bind]
  simp only [Int.natCast_nonneg, if_true, Int.toNat_natCast, hreach, window]
  rfl

/-- A buffer that ends with the margin counts as too short. -/
theorem IndexOf.exists_getPage_eq_ask (h : t.IndexOf anchor a) (room : String)
    (hopen : t.historicEndReached = false) (heq : t.length = wanted a offset pageSize) :
    ∃ next, t.getPage room anchor (offset : Int) pageSize =
      .ask (.messages room t.backToken .backward minimumPagination) next := by
  have hlimit : max (wanted a offset pageSize - t.length) minimumPagination =
      minimumPagination := by
    rw [heq, Nat.sub_self, Nat.zero_max]
  rw [getPage, h.anchorIndex_eq, Exchange.done_bind]
  simp only [Int.natCast_nonneg, if_true, Int.toNat_natCast, reach, hopen, heq.le, decide_true,
    Bool.not_false, Bool.and_self, backpaginate, hlimit]
  exact ⟨_, rfl⟩

variable {σ : Type} {hs : Homeserver σ} {room : String} {log : σ → List Event} {s s' : σ}
  {t' : Timeline} {b' : Nat}

/-- After a read that left older entries in the log, the buffer reaches beyond the margin or ends
with it. Which of both it is depends on how much was lacking. -/
theorem Mirrors.length_of_reach (hx : Mirrors l t b f) (h : ServesLog hs room log)
    (ha : AnswersMessages hs room log) (hl : l <+: log s)
    (hplain : ∀ e ∈ l, e.isRedaction = false) (wanted : Nat) :
    ∃ t' s' b', (t.reach room wanted).run hs s = (some t', s') ∧ l <+: log s' ∧
      Mirrors l t' b' f ∧ (0 < b' →
        (wanted < t.length + minimumPagination → wanted < t'.length) ∧
        (t.length + minimumPagination ≤ wanted → t'.length = wanted)) := by
  obtain ⟨t', s', b', hrun, hl', hx', hcases⟩ := hx.run_reach_cases h ha hl wanted
  refine ⟨t', s', b', hrun, hl', hx', fun hb' => ?_⟩
  have hbefore := hx.length_add_eq hplain
  have hafter := hx'.length_add_eq hplain
  rcases hcases with ⟨rfl, rfl, hzero | hlt⟩ | ⟨hle, hb⟩ <;> omega

end

/-- After a page has been read from a log without redactions, and while the log still has older
entries, the same page is read again without a call if the page and its margin had lacked fewer
events than are always asked for. If they had lacked more, the second read asks once more, and the
third makes no call. -/
theorem getPage_again {σ : Type} {hs : Homeserver σ} {room : String} {log : σ → List Event}
    {x : Config σ} (h : ServesLog hs room log) (ha : AnswersMessages hs room log)
    (hx : Reachable hs room (Grows log) x) (hdistinct : ((log x.server).map Event.id).Nodup)
    (hplain : ∀ e ∈ log x.server, e.isRedaction = false) (anchor : String)
    (offset pageSize : Nat) :
    ∃ r t s b f, (x.timeline.getPage room anchor offset pageSize).run hs x.server =
        (some (r, t), s) ∧ Mirrors (log x.server) t b f ∧
      ∀ page, r = .ok page → 0 < b → ∃ a t₁ s₁,
        (x.timeline.anchorIndex room anchor).run hs x.server = (some (.ok a, t₁), s₁) ∧
        (wanted a offset pageSize < t₁.length + minimumPagination →
          t.getPage room anchor offset pageSize = .done (.ok page, t)) ∧
        (t₁.length + minimumPagination ≤ wanted a offset pageSize →
          (∃ next, t.getPage room anchor offset pageSize =
            .ask (.messages room t.backToken .backward minimumPagination) next) ∧
          ∃ page₂ t₂ s₂, (t.getPage room anchor offset pageSize).run hs s =
              (some (.ok page₂, t₂), s₂) ∧
            t₂.getPage room anchor offset pageSize = .done (.ok page₂, t₂)) := by
  obtain ⟨b₀, f, hb₀⟩ := hx.mirrors h
  obtain ⟨r, t₁, s₁, b₁, hindex, hl₁, hb₁, -, -⟩ :=
    hb₀.run_anchorIndex h ha List.prefix_rfl hdistinct anchor
  cases r with
  | error e =>
      refine ⟨.error e, t₁, s₁, b₁, f, ?_, hb₁, nofun⟩
      rw [getPage, Exchange.run_bind_of_run hindex]
      rfl
  | ok a =>
      obtain ⟨t, s, b, hreach, hl, hb, hlength⟩ :=
        hb₁.length_of_reach h ha hl₁ hplain (wanted a offset pageSize)
      have hat₁ := (fetches_of_anchorIndex hindex).2 a rfl
      have hat : t.IndexOf anchor a := hat₁.deepens (fetches_of_reach hreach).deepens
      refine ⟨.ok (t.window a (offset : Int) pageSize), t, s, b, f,
        run_getPage_of_reach hindex hreach, hb, ?_⟩
      rintro _ ⟨⟩ hpos
      obtain ⟨hfew, hmany⟩ := hlength hpos
      refine ⟨a, t₁, s₁, hindex, fun hlt => hat.getPage_eq_done room (hfew hlt), fun hle => ?_⟩
      have heq := hmany hle
      refine ⟨hat.exists_getPage_eq_ask room (hb.historicEnd_eq_false hpos) heq, ?_⟩
      -- The second read brings at least one event, so the buffer reaches beyond the margin.
      obtain ⟨t₂, s₂, b₂, hreach₂, -, hb₂, hcases⟩ :=
        hb.run_reach_cases h ha hl (wanted a offset pageSize)
      have hat₂ : t₂.IndexOf anchor a := hat.deepens (fetches_of_reach hreach₂).deepens
      have hlonger : wanted a offset pageSize < t₂.length := by
        have hbefore := hb.length_add_eq hplain
        have hafter := hb₂.length_add_eq hplain
        have hsome : 0 < minimumPagination := by decide
        rcases hcases with ⟨rfl, rfl, hzero | hlt⟩ | ⟨-, hb₂⟩ <;> omega
      exact ⟨_, t₂, s₂, run_getPage_of_reach (hat.run_anchorIndex hs room s) hreach₂,
        hat₂.getPage_eq_done room hlonger⟩

end RoomReader.Timeline

/-! A room of messages alone, loaded with its newest one. A page of ten lacks fewer events than are
asked for, so it is free from the second read on. A page of 33 lacks 64 with its margin. -/

namespace RoomReader.SmallRoom

open RoomReader.Timeline

def plain : List Event := (List.range 66).map fun n => .message (Position.token n)

def plainRoom : LogServer.With room := LogServer.holding room plain (by decide)

def plainSeeded : Config (LogServer.With room) :=
  ⟨{ events := [.message "t65"], backToken := "t65", forwardToken := "t66" }, {}, plainRoom⟩

theorem reachable_plainSeeded :
    Reachable (LogServer.serving room) room (Grows (LogServer.historyOf room)) plainSeeded :=
  ⟨plainSeeded, ⟨1, plainRoom, _, 0, rfl, rfl⟩, .refl⟩

theorem nodup_plain : (plain.map Event.id).Nodup := by decide +kernel

theorem isRedaction_of_mem_plain : ∀ e ∈ plain, e.isRedaction = false := by decide +kernel

theorem page_of_ten_is_free :
    ∃ page t s, (plainSeeded.timeline.getPage room "" 0 10).run (LogServer.serving room) plainRoom =
        (some (.ok page, t), s) ∧ t.length = 65 ∧
      t.getPage room "" 0 10 = .done (.ok page, t) := by
  obtain ⟨r, t, s, b, f, hrun, hb, hagain⟩ := getPage_again (LogServer.servesLog room)
    (LogServer.answersMessages room) reachable_plainSeeded nodup_plain isRedaction_of_mem_plain
    "" 0 10
  have hread : ((plainSeeded.timeline.getPage room "" 0 10).run (LogServer.serving room)
      plainRoom).1.map (fun p => (p.2.length, p.2.backToken, p.1.isOk)) =
        some (65, "t1", true) := by decide +kernel
  change (plainSeeded.timeline.getPage room "" 0 10).run (LogServer.serving room) plainRoom =
    (some (r, t), s) at hrun
  rw [hrun] at hread
  obtain ⟨hlength, htoken, hok⟩ : t.length = 65 ∧ t.backToken = "t1" ∧ r.isOk = true := by
    simpa using hread
  obtain rfl : b = 1 := Position.token_inj.1 (hb.backToken.symm.trans htoken)
  cases r with
  | error e => cases hok
  | ok page =>
      obtain ⟨a, t₁, s₁, hindex, hfree, -⟩ := hagain page rfl Nat.one_pos
      cases hindex
      exact ⟨page, t, s, hrun, hlength, hfree (by decide)⟩

/-- The page of 33 leaves one older entry in the log, and reading it again asks once more. -/
theorem page_of_33_is_asked_for_again :
    ServesLog (LogServer.serving room) room (LogServer.historyOf room) ∧
      AnswersMessages (LogServer.serving room) room (LogServer.historyOf room) ∧
      Reachable (LogServer.serving room) room (Grows (LogServer.historyOf room)) plainSeeded ∧
      (plain.map Event.id).Nodup ∧ (∀ e ∈ plain, e.isRedaction = false) ∧
      ∃ page t s, (plainSeeded.timeline.getPage room "" 0 33).run (LogServer.serving room)
          plainRoom = (some (.ok page, t), s) ∧ Mirrors plain t 1 66 ∧
        ∃ next, t.getPage room "" 0 33 = .ask (.messages room "t1" .backward 64) next := by
  refine ⟨LogServer.servesLog room, LogServer.answersMessages room, reachable_plainSeeded,
    nodup_plain, isRedaction_of_mem_plain, ?_⟩
  have hx : Mirrors plain plainSeeded.timeline 65 66 :=
    ⟨by decide, by decide, rfl, rfl, rfl, nofun⟩
  have hindex : plainSeeded.timeline.IndexOf "" 0 := .inl ⟨rfl, rfl⟩
  obtain ⟨t, s, b, hreach, -, hb, hcases⟩ := hx.run_reach_cases (LogServer.servesLog room)
    (LogServer.answersMessages room) (s := plainRoom) List.prefix_rfl (wanted 0 0 33)
  obtain rfl : b = 1 := by
    rcases hcases with ⟨-, -, hzero | hlt⟩ | ⟨-, hb⟩
    · cases hzero
    · exact absurd hlt (by decide)
    · exact hb
  have hlength := hb.length_add_eq isRedaction_of_mem_plain
  have hat : t.IndexOf "" 0 := hindex.deepens (fetches_of_reach hreach).deepens
  obtain ⟨next, hask⟩ := hat.exists_getPage_eq_ask room (hb.historicEnd_eq_false Nat.one_pos)
    (show t.length = wanted 0 0 33 from Nat.add_right_cancel hlength)
  rw [hb.backToken] at hask
  exact ⟨_, t, s, run_getPage_of_reach (hindex.run_anchorIndex _ room plainRoom) hreach, hb, next,
    hask⟩

end RoomReader.SmallRoom
