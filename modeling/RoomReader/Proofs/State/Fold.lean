import Mathlib.Data.List.Basic
import RoomReader.Room.State

namespace RoomReader

/-!
# What events write

An event writes to a text, to the power level table, to the aliases of a server, or to a member. A
text, the table and the aliases of a server are each what the last event wrote that wrote there; a
member is what all contents for that user make of an unseen one.
-/

/-- The texts of a room's state. -/
inductive TextField
  | creator
  | roomVersion
  | name
  | topic
  | canonicalAlias
  | avatarUrl
deriving DecidableEq, Repr

/-- What a member becomes by one content more. -/
def Member.take (user : String) (known : Option Member) (c : MemberContent) : Option Member :=
  some ((known.getD (unseen user)).merge c)

namespace Event

/-- What an event says for a text. -/
def text? (e : Event) (field : TextField) : Option String :=
  match e.stateKey, field, e.content with
  | some _, .creator, .create c => c.creator
  | some _, .roomVersion, .create c => c.roomVersion
  | some _, .name, .name c => c.name
  | some _, .topic, .topic c => c.topic
  | some _, .canonicalAlias, .canonicalAlias c => c.roomAlias
  | some _, .avatarUrl, .avatar c => c.url
  | _, _, _ => none

def levels? (e : Event) : Option PowerLevels :=
  match e.stateKey, e.content with
  | some _, .powerLevels levels => some levels
  | _, _ => none

/-- The aliases that an event publishes for a server, if there are any. -/
def aliasesOf? (e : Event) (server : String) : Option (List String) :=
  match e.stateKey, e.content with
  | some key, .aliases c => if key = server ∧ c.aliases ≠ [] then some c.aliases else none
  | _, _ => none

/-- The contents that an event brings for a user, in the order in which they count. -/
def contentsOf (e : Event) (user : String) (usePrev : Bool) : List MemberContent :=
  match e.stateKey, e.content with
  | some key, .member c => if key = user then RoomState.memberContents e c usePrev else []
  | _, _ => []

end Event

namespace Member

variable {user : String} {known : Option Member} {m : Member} {contents : List MemberContent}

theorem foldl_take (user : String) (known : Option Member) (hne : contents ≠ []) :
    contents.foldl (take user) known =
      some (contents.foldl merge (known.getD (unseen user))) := by
  obtain ⟨c, rest, rfl⟩ := List.exists_cons_of_ne_nil hne
  rw [List.foldl_cons, List.foldl_cons, take]
  generalize (known.getD (unseen user)).merge c = m
  induction rest generalizing m with
  | nil => rfl
  | cons c' rest ih => exact ih (by simp) (m.merge c')

theorem userId_foldl_merge (contents : List MemberContent) (m : Member) :
    (contents.foldl merge m).userId = m.userId := by
  induction contents generalizing m with
  | nil => rfl
  | cons c contents ih => exact ih (m.merge c)

theorem userId_of_foldl_take (hknown : ∀ m, known = some m → m.userId = user)
    (h : contents.foldl (take user) known = some m) : m.userId = user := by
  by_cases hne : contents = []
  · rw [hne] at h
    exact hknown m h
  · rw [foldl_take user known hne] at h
    cases h
    rw [userId_foldl_merge]
    cases known with
    | none => rfl
    | some m => exact hknown m rfl

end Member

namespace RoomState

def text (s : RoomState) : TextField → Option String
  | .creator => s.creator
  | .roomVersion => s.roomVersion
  | .name => s.name
  | .topic => s.topic
  | .canonicalAlias => s.canonicalAlias
  | .avatarUrl => s.avatarUrl

theorem memberContents_ne_nil (e : Event) (c : MemberContent) (usePrev : Bool) :
    memberContents e c usePrev ≠ [] := by
  simp [memberContents]

/-- A state is all that can be read from it. -/
theorem eq_of_parts {s s' : RoomState} (htext : ∀ field, s.text field = s'.text field)
    (hlevels : s.powerLevels = s'.powerLevels)
    (hmembers : ∀ user : String, s.memberMap[user]? = s'.memberMap[user]?)
    (haliases : ∀ server : String, s.aliasMap[server]? = s'.aliasMap[server]?)
    (hroster : s.roster = s'.roster) : s = s' := by
  have hcreator := htext .creator
  have hroomVersion := htext .roomVersion
  have hname := htext .name
  have htopic := htext .topic
  have hcanonicalAlias := htext .canonicalAlias
  have havatarUrl := htext .avatarUrl
  have hmemberMap := Std.ExtTreeMap.ext_getElem? hmembers
  have haliasMap := Std.ExtTreeMap.ext_getElem? haliases
  cases s
  cases s'
  simp only [text] at *
  subst_vars
  rfl

/-! ## One event -/

variable (s : RoomState) (e : Event) (events : List Event) (usePrev : Bool)

theorem text_applyEvent (field : TextField) :
    (s.applyEvent e usePrev).text field = (e.text? field).or (s.text field) := by
  unfold applyEvent Event.text?
  cases e.stateKey with
  | none => rfl
  | some key =>
      cases e.content with
      | aliases c =>
          dsimp only
          split <;> cases field <;> rfl
      | _ => cases field <;> simp [text]

theorem powerLevels_applyEvent :
    some (s.applyEvent e usePrev).powerLevels = e.levels?.or (some s.powerLevels) := by
  unfold applyEvent Event.levels?
  cases e.stateKey with
  | none => rfl
  | some key =>
      cases e.content with
      | aliases c =>
          dsimp only
          split <;> rfl
      | _ => rfl

theorem getElem?_aliasMap_applyEvent (server : String) :
    (s.applyEvent e usePrev).aliasMap[server]? =
      (e.aliasesOf? server).or s.aliasMap[server]? := by
  unfold applyEvent Event.aliasesOf?
  cases e.stateKey with
  | none => rfl
  | some key =>
      cases e.content with
      | aliases c =>
          dsimp only
          by_cases hnil : c.aliases = []
          · simp [hnil]
          · by_cases hkey : key = server <;> simp [hnil, hkey, StringMap.getElem?_insert]
      | _ => rfl

theorem getElem?_memberMap_applyEvent (user : String) :
    (s.applyEvent e usePrev).memberMap[user]? =
      (e.contentsOf user usePrev).foldl (Member.take user) s.memberMap[user]? := by
  unfold applyEvent Event.contentsOf
  cases e.stateKey with
  | none => rfl
  | some key =>
      cases e.content with
      | aliases c =>
          dsimp only
          split <;> rfl
      | member c =>
          dsimp only
          rw [StringMap.getElem?_insert]
          by_cases hkey : key = user
          · subst hkey
            rw [if_pos rfl, if_pos rfl,
              Member.foldl_take key _ (memberContents_ne_nil e c usePrev)]
          · rw [if_neg hkey, if_neg hkey, List.foldl_nil]
      | _ => rfl

theorem roster_applyEvent : (s.applyEvent e usePrev).roster = s.roster := by
  unfold applyEvent
  cases e.stateKey with
  | none => rfl
  | some key =>
      cases e.content with
      | aliases c =>
          dsimp only
          split <;> rfl
      | _ => rfl

/-! ## Many events -/

/-- What each event may replace is what the last event wrote that did. -/
theorem getLast?_or_of_applyEvent {α : Type} (get : RoomState → Option α)
    {written : Event → Option α}
    (h : ∀ s e, get (s.applyEvent e usePrev) = (written e).or (get s)) :
    get (s.apply events usePrev) = (events.filterMap written).getLast?.or (get s) := by
  induction events generalizing s with
  | nil => rfl
  | cons e events ih =>
      have hrest := ih (s.applyEvent e usePrev)
      rw [h] at hrest
      change get ((s.applyEvent e usePrev).apply events usePrev) = _
      rw [hrest]
      cases hwritten : written e with
      | none => simp [hwritten]
      | some a => simp [hwritten, List.getLast?_cons]

theorem text_apply (field : TextField) :
    (s.apply events usePrev).text field =
      (events.filterMap (·.text? field)).getLast?.or (s.text field) :=
  getLast?_or_of_applyEvent s events usePrev (·.text field)
    fun s e => text_applyEvent s e usePrev field

theorem powerLevels_apply :
    some (s.apply events usePrev).powerLevels =
      (events.filterMap Event.levels?).getLast?.or (some s.powerLevels) :=
  getLast?_or_of_applyEvent s events usePrev (fun s => some s.powerLevels)
    fun s e => powerLevels_applyEvent s e usePrev

theorem getElem?_aliasMap_apply (server : String) :
    (s.apply events usePrev).aliasMap[server]? =
      (events.filterMap (·.aliasesOf? server)).getLast?.or s.aliasMap[server]? :=
  getLast?_or_of_applyEvent s events usePrev (fun s => s.aliasMap[server]?)
    fun s e => getElem?_aliasMap_applyEvent s e usePrev server

theorem getElem?_memberMap_apply (user : String) :
    (s.apply events usePrev).memberMap[user]? =
      (events.flatMap (·.contentsOf user usePrev)).foldl (Member.take user) s.memberMap[user]? := by
  induction events generalizing s with
  | nil => rfl
  | cons e events ih =>
      change ((s.applyEvent e usePrev).apply events usePrev).memberMap[user]? = _
      rw [ih, getElem?_memberMap_applyEvent, List.flatMap_cons, List.foldl_append]

/-- Events that change nothing may be left out. -/
theorem apply_filter {p : Event → Bool}
    (hp : ∀ e s, p e = false → applyEvent s e usePrev = s) :
    s.apply (events.filter p) usePrev = s.apply events usePrev := by
  induction events generalizing s with
  | nil => rfl
  | cons e later ih =>
      cases hkeep : p e with
      | true =>
          rw [List.filter_cons_of_pos hkeep]
          exact ih (s.applyEvent e usePrev)
      | false =>
          rw [List.filter_cons_of_neg (by rw [hkeep]; nofun), ih]
          exact congrArg (·.apply later usePrev) (hp e s hkeep).symm

theorem roster_apply : (s.apply events usePrev).roster = s.roster := by
  induction events generalizing s with
  | nil => rfl
  | cons e events ih => exact (ih _).trans (roster_applyEvent s e usePrev)

end RoomState

end RoomReader
