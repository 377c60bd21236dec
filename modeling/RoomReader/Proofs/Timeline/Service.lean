import RoomReader.Proofs.Position
import RoomReader.Proofs.Timeline.Between

namespace RoomReader

/-!
# Homeservers that serve a log

The log of a room only grows at its end. An answer shows a stretch of it, and its token names the
far end of that stretch. How long the stretch is, and when the token may be missing, is what
homeservers differ in.
-/

/-- An answer with the `n` entries before a position, newest first. -/
structure Older (l : List Event) (p n : Nat) (m : Messages) : Prop where
  le : n ≤ p
  chunk : m.chunk = (between l (p - n) p).reverse
  endToken : ∀ token, m.endToken = some token → token = Position.token (p - n)

/-- An answer with the `n` entries from a position on, oldest first. -/
structure Newer (l : List Event) (p n : Nat) (m : Messages) : Prop where
  le : p + n ≤ l.length
  chunk : m.chunk = between l p (p + n)
  endToken : ∀ token, m.endToken = some token → token = Position.token (p + n)

/-- An initial sync with the `n` latest entries and the tokens of both their ends. -/
structure Latest (l : List Event) (n : Nat) (sync : InitialSync) : Prop where
  le : n ≤ l.length
  chunk : sync.messages.chunk = between l (l.length - n) l.length
  startToken : sync.messages.startToken = some (Position.token (l.length - n))
  endToken : sync.messages.endToken = some (Position.token l.length)

theorem Older.length_chunk {l : List Event} {p n : Nat} {m : Messages} (h : Older l p n m)
    (hp : p ≤ l.length) : m.chunk.length = n := by
  rw [h.chunk, List.length_reverse, length_between hp]
  exact Nat.sub_sub_self h.le

section

variable {σ : Type}

/-- The log grows only at its end. -/
def Grows (log : σ → List Event) (s s' : σ) : Prop := log s <+: log s'

/-- A homeserver with position tokens: whenever it answers, it shows as many entries as were asked
for and are there. An answer with older entries lacks its token only if it shows none, and an
answer with newer entries never lacks it. Any call may fail. -/
structure ServesLog (hs : Homeserver σ) (room : String) (log : σ → List Event) : Prop where
  grows : ∀ c s, Grows log s (hs.respond c s).2
  sync : ∀ {limit s r s'}, hs.respond (.sync room limit) s = (some (.ok r), s') →
    Latest (log s') (min limit (log s').length) r
  older : ∀ {p limit s m s'}, p ≤ (log s).length →
    hs.respond (.messages room (Position.token p) .backward limit) s = (some (.ok m), s') →
    Older (log s') p (min limit p) m ∧ (m.endToken = none → m.chunk = [])
  newer : ∀ {p limit s m s'}, p ≤ (log s).length →
    hs.respond (.messages room (Position.token p) .forward limit) s = (some (.ok m), s') →
    Newer (log s') p (min limit ((log s').length - p)) m ∧ m.endToken ≠ none

theorem ServesLog.isPrefix {hs : Homeserver σ} {room : String} {log : σ → List Event}
    (h : ServesLog hs room log) {c : Call} {s s' : σ} {r : Option (Except ApiError c.Reply)}
    (hc : hs.respond c s = (r, s')) : log s <+: log s' := by
  simpa only [Grows, hc] using h.grows c s

/-- No call for the messages on a side of a position fails. -/
def AnswersMessages (hs : Homeserver σ) (room : String) (log : σ → List Event) : Prop :=
  ∀ p direction limit s, p ≤ (log s).length → ∃ m s',
    hs.respond (.messages room (Position.token p) direction limit) s = (some (.ok m), s')

end

namespace RoomLog

variable (l : RoomLog) {p limit : Nat}

theorem older_backward :
    Older l.history p (min limit p) (l.backward p limit) ∧
      ((l.backward p limit).endToken = none → (l.backward p limit).chunk = []) := by
  have hstart : p - min limit p = p - limit := by omega
  refine ⟨⟨by omega, by rw [hstart]; rfl, ?_⟩, ?_⟩
  · intro token h
    simp only [backward] at h
    split at h
    · cases h
    · cases h
      rw [hstart]
  · intro h
    simp only [backward] at h
    split at h
    · exact List.isEmpty_iff.1 ‹_›
    · cases h

theorem newer_forward (hp : p ≤ l.history.length) :
    Newer l.history p (min limit (l.history.length - p)) (l.forward p limit) ∧
      (l.forward p limit).endToken ≠ none := by
  have hchunk : (l.forward p limit).chunk =
      between l.history p (p + min limit (l.history.length - p)) := by
    simp only [forward, between, List.drop_take]
    rw [Nat.add_sub_cancel_left, ← List.length_drop, List.take_eq_take_min]
  have hlength : (l.forward p limit).chunk.length = min limit (l.history.length - p) := by
    simp [forward]
  refine ⟨⟨by omega, hchunk, ?_⟩, by simp [forward]⟩
  intro token h
  cases h
  exact congrArg (fun n => Position.token (p + n)) hlength

theorem latest_sync : Latest l.history (min limit l.history.length) (l.sync limit) := by
  have hstart : l.history.length - min limit l.history.length = l.history.length - limit := by omega
  refine ⟨by omega, ?_, ?_, rfl⟩
  · rw [hstart, between_length]
    rfl
  · rw [hstart]
    rfl

variable (hp : p ≤ l.history.length) (hl : l.history.length ≤ Count.limit)

include hp hl

theorem min_ofToken_token : min (Position.ofToken (Position.token p)) l.history.length = p := by
  rw [Position.ofToken_token (Nat.le_trans hp hl), Nat.min_eq_left hp]

theorem messages_backward :
    l.messages (Position.token p) .backward limit = l.backward p limit :=
  congrArg (fun n => l.backward n limit) (l.min_ofToken_token hp hl)

theorem messages_forward : l.messages (Position.token p) .forward limit = l.forward p limit :=
  congrArg (fun n => l.forward n limit) (l.min_ofToken_token hp hl)

theorem older_messages {m : Messages} (hm : l.messages (Position.token p) .backward limit = m) :
    Older l.history p (min limit p) m ∧ (m.endToken = none → m.chunk = []) := by
  rw [l.messages_backward hp hl] at hm
  exact hm ▸ l.older_backward

theorem newer_messages {m : Messages} (hm : l.messages (Position.token p) .forward limit = m) :
    Newer l.history p (min limit (l.history.length - p)) m ∧ m.endToken ≠ none := by
  rw [l.messages_forward hp hl] at hm
  exact hm ▸ l.newer_forward hp

end RoomLog

namespace LogServer

/-- A log server that has a room, with a log whose positions are counts. -/
abbrev With (room : String) : Type :=
  { s : LogServer // ∃ l, s.rooms[room]? = some l ∧ l.history.length ≤ Count.limit }

def historyOf (room : String) (s : With room) : List Event := (s.1.rooms[room]?.getD {}).history

/-- The homeserver of such log servers, which are not changed by calls. -/
def serving (room : String) : Homeserver (With room) := ⟨fun c s => (some (s.1.answer c), s)⟩

theorem respond_sync (room : String) (limit : Nat) (s : With room) :
    ∃ l : RoomLog, l.history = historyOf room s ∧
      (serving room).respond (.sync room limit) s = (some (.ok (l.sync limit)), s) := by
  obtain ⟨l, hl, _⟩ := s.2
  refine ⟨l, by simp [historyOf, hl], ?_⟩
  simp [serving, answer, LogServer.room, hl, Except.map]

theorem respond_messages (room : String) (fromToken : String) (direction : Direction) (limit : Nat)
    (s : With room) :
    ∃ l : RoomLog, l.history = historyOf room s ∧ l.history.length ≤ Count.limit ∧
      (serving room).respond (.messages room fromToken direction limit) s =
        (some (.ok (l.messages fromToken direction limit)), s) := by
  obtain ⟨l, hl, hlength⟩ := s.2
  refine ⟨l, by simp [historyOf, hl], hlength, ?_⟩
  simp [serving, answer, LogServer.room, hl, Except.map]

theorem servesLog (room : String) : ServesLog (serving room) room (historyOf room) where
  grows _ _ := List.prefix_rfl
  sync {limit s r s'} h := by
    obtain ⟨l, hl, hr⟩ := respond_sync room limit s
    rw [hr] at h
    cases h
    exact hl ▸ l.latest_sync
  older {p limit s m s'} hp h := by
    obtain ⟨l, hl, hlength, hr⟩ := respond_messages room (Position.token p) .backward limit s
    rw [← hl] at hp
    rw [hr] at h
    cases h
    exact hl ▸ l.older_messages hp hlength rfl
  newer {p limit s m s'} hp h := by
    obtain ⟨l, hl, hlength, hr⟩ := respond_messages room (Position.token p) .forward limit s
    rw [← hl] at hp
    rw [hr] at h
    cases h
    exact hl ▸ l.newer_messages hp hlength rfl

theorem answersMessages (room : String) :
    AnswersMessages (serving room) room (historyOf room) := by
  intro p direction limit s _
  obtain ⟨l, _, _, hr⟩ := respond_messages room (Position.token p) direction limit s
  exact ⟨_, _, hr⟩

def holding (room : String) (history : List Event) (h : history.length ≤ Count.limit) : With room :=
  ⟨({} : LogServer).setRoom room { history }, { history }, by simp [setRoom], h⟩

end LogServer

namespace Event

def message (id : String) : Event :=
  { id, sender := "@alice:hs.one", stateKey := none, content := .other "m.room.message" .null
    prevContent := none, originServerTs := 0 }

def redacting (id : String) : Event := { message id with content := .redaction .null }

end Event

/-! A room of two messages with a redaction between them, and the same room with one more
message. -/

namespace SmallRoom

def room : String := "!small:hs.one"

def log : List Event := [.message "$0", .redacting "$1", .message "$2"]

def early : LogServer.With room := LogServer.holding room log (by decide)

def late : LogServer.With room := LogServer.holding room (log ++ [.message "$3"]) (by decide)

end SmallRoom

end RoomReader
