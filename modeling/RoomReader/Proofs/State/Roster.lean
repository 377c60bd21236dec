import Mathlib.Algebra.BigOperators.Group.List.Lemmas
import Mathlib.Algebra.Ring.Nat
import Mathlib.Data.List.TakeWhile
import RoomReader.Proofs.Sorting
import RoomReader.Proofs.State.Base
import RoomReader.Proofs.State.Fold

namespace RoomReader

/-!
# The roster is the sorted projection

What each list of a roster holds and how it is ordered determines the list, since no two entries
are of one rank. So the roster of a state that is derived anew does not depend on the order in which
the members and the aliases are gone through.
-/

theorem dropWhile_ne_eq_cons_iff {sep : Char} {l rest : List Char} :
    (∃ c, l.dropWhile (· ≠ sep) = c :: rest) ↔
      ∃ before, sep ∉ before ∧ l = before ++ sep :: rest := by
  constructor
  · rintro ⟨c, h⟩
    have hc : c = sep := by
      have := List.head?_dropWhile_not (fun c => decide (c ≠ sep)) l
      rw [h] at this
      simpa using this
    subst hc
    refine ⟨l.takeWhile (· ≠ c), fun hmem => ?_, ?_⟩
    · simpa using List.mem_takeWhile_imp hmem
    · rw [← h, List.takeWhile_append_dropWhile]
  · rintro ⟨before, hbefore, rfl⟩
    refine ⟨sep, ?_⟩
    rw [List.dropWhile_append_of_pos, List.dropWhile_cons_of_neg (by simp)]
    rintro a ha
    exact decide_eq_true fun h => hbefore (h ▸ ha)

/-! ## Members in order -/

namespace Member

/-- The display name if it is not empty, or else the user id. -/
def shownName (m : Member) : String := (m.displayName.filter (· ≠ "")).getD m.userId

/-- Higher levels come first, then names, then user ids. -/
def Before (a b : Member) : Prop :=
  b.powerLevel < a.powerLevel ∨ b.powerLevel = a.powerLevel ∧
    (a.shownName < b.shownName ∨ a.shownName = b.shownName ∧ a.userId < b.userId)

/-- The user is of this server, whose name stands behind the first colon of the user id. -/
def IsOf (m : Member) (server : String) : Prop :=
  ∃ user : String, ':' ∉ user.toList ∧ m.userId = user ++ ":" ++ server

variable {a b m : Member} {server : String}

theorem name_eq_shownName (m : Member) : m.name = m.shownName := by
  unfold name shownName
  cases m.displayName with
  | none => rfl
  | some n =>
      by_cases hn : n = ""
      · subst hn
        rfl
      · rw [Option.filter_some_pos (by simpa using hn)]
        simp [hn]

instance : Std.TransCmp order :=
  have := transCmp_descending fun m : Member => m.powerLevel.toInt
  inferInstanceAs (Std.TransCmp (compareLex
    (fun a b : Member => compare b.powerLevel.toInt a.powerLevel.toInt)
    (compareLex (compareOn name) (compareOn userId))))

theorem order_eq_lt_iff : a.order b = .lt ↔ a.Before b := by
  simp only [order, Before, Ordering.then_eq_lt, compare_lt_iff_lt, Std.compare_eq_iff_eq,
    name_eq_shownName, Int64.lt_iff_toInt_lt, Int64.toInt_inj]

theorem userId_eq_of_order_eq (h : a.order b = .eq) : a.userId = b.userId := by
  simp only [order, Ordering.then_eq_eq, Std.compare_eq_iff_eq] at h
  exact h.2.2

theorem server?_eq_some_iff : m.server? = some server ↔ m.IsOf server := by
  have hchars : m.server? = some server ↔
      ∃ c, m.userId.toList.dropWhile (· ≠ ':') = c :: server.toList := by
    unfold server?
    cases m.userId.toList.dropWhile (· ≠ ':') with
    | nil => simp
    | cons c rest => simp [← String.toList_inj]
  rw [hchars, dropWhile_ne_eq_cons_iff]
  constructor
  · rintro ⟨before, hbefore, hid⟩
    exact ⟨String.ofList before, by simpa using hbefore, String.toList_inj.1 (by simp [hid])⟩
  · rintro ⟨user, huser, hid⟩
    exact ⟨user.toList, huser, by simp [hid]⟩

theorem isSome_server?_iff : m.server?.isSome ↔ ':' ∈ m.userId.toList := by
  unfold server?
  cases hdrop : m.userId.toList.dropWhile (· ≠ ':') with
  | nil =>
      have hall := List.dropWhile_eq_nil_iff.1 hdrop
      exact ⟨nofun, fun hmem => absurd rfl (of_decide_eq_true (hall _ hmem))⟩
  | cons c rest =>
      obtain ⟨before, -, hid⟩ := dropWhile_ne_eq_cons_iff.1 ⟨c, hdrop⟩
      simp [hid]

instance : Decidable (m.IsOf server) := decidable_of_iff _ server?_eq_some_iff

end Member

/-! ## What a roster holds -/

/-- A user has the level of the user's own entry in the table, or the default without one. -/
def PowerLevels.Assigns (levels : PowerLevels) (user : String) (level : Int64) : Prop :=
  levels.users[user]? = some level ∨ levels.users[user]? = none ∧ level = levels.usersDefault

theorem PowerLevels.assigns_iff {levels : PowerLevels} {user : String} {level : Int64} :
    levels.Assigns user level ↔ level = levels.userLevel user := by
  unfold Assigns userLevel
  cases levels.users[user]? with
  | none => simp
  | some own => simp [eq_comm]

/-- The lists of a roster, each by what it holds and how it is ordered. -/
structure Roster.Projects (r : Roster) (s : RoomState) : Prop where
  mem_members : ∀ m, m ∈ r.members ↔ ∃ known, s.memberMap[m.userId]? = some known ∧
    known.membership = "join" ∧ m = known.atLevel m.powerLevel ∧
      s.powerLevels.Assigns m.userId m.powerLevel
  members_sorted : r.members.Pairwise Member.Before
  mem_servers : ∀ u, u ∈ r.servers ↔ (∃ m ∈ r.members, m.IsOf u.serverName) ∧
    u.numUsers = r.members.countP fun m => m.IsOf u.serverName
  servers_sorted : r.servers.Pairwise (LargerFirst (·.numUsers) (·.serverName))
  mem_aliases : ∀ a, a ∈ r.aliases ↔ ∃ stored, s.aliasMap[a.serverName]? = some stored ∧
    a.aliases.Perm stored ∧ a.aliases.Pairwise (· ≤ ·)
  aliases_sorted : r.aliases.Pairwise (LargerFirst (·.aliases.length) (·.serverName))

namespace Roster

variable {r r' : Roster} {s : RoomState}

/-- No state has two rosters. -/
theorem Projects.unique (h : r.Projects s) (h' : r'.Projects s) : r = r' := by
  have hmembers : r.members = r'.members :=
    eq_of_pairwise_lt (h.members_sorted.imp Member.order_eq_lt_iff.2)
      (h'.members_sorted.imp Member.order_eq_lt_iff.2)
      fun m => (h.mem_members m).trans (h'.mem_members m).symm
  have hservers : r.servers = r'.servers := by
    refine eq_of_pairwise_largerFirst h.servers_sorted h'.servers_sorted fun u => ?_
    rw [h.mem_servers, h'.mem_servers, hmembers]
  have haliases : r.aliases = r'.aliases :=
    eq_of_pairwise_largerFirst h.aliases_sorted h'.aliases_sorted
      fun a => (h.mem_aliases a).trans (h'.mem_aliases a).symm
  cases r
  cases r'
  congr

/-! ## How a roster is made -/

/-- The published aliases, from the entries of the aliases in any order. -/
def sortedAliases (entries : List (String × List String)) : List ServerAliases :=
  (entries.map fun e => ⟨e.1, e.2.mergeSort fun a b => (compare a b).isLE⟩).mergeSort
    fun a b => (a.order b).isLE

/-- The roster, from the members and the entries of the aliases in any order. -/
def ofEntries (members : List Member) (aliases : List (String × List String)) : Roster where
  members := joined members
  servers := serversOf (joined members)
  aliases := sortedAliases aliases

theorem ofMaps_eq_ofEntries (members : StringMap Member) (aliases : StringMap (List String)) :
    ofMaps members aliases = ofEntries (members.toList.map (·.2)) aliases.toList := rfl

theorem getElem?_foldl_tally (names : List String) (m : StringMap Nat) (n : String) :
    (names.foldl (fun m n => m.insert n (m[n]?.getD 0 + 1)) m)[n]? =
      if n ∈ names then some (m[n]?.getD 0 + names.count n) else m[n]? := by
  induction names generalizing m with
  | nil => rfl
  | cons first names ih =>
      rw [List.foldl_cons, ih, StringMap.getElem?_insert]
      by_cases hfirst : first = n
      · subst hfirst
        by_cases hmem : first ∈ names
        · simp only [hmem, if_true, Option.getD_some, List.mem_cons, or_true, List.count_cons_self]
          rw [Nat.add_assoc, Nat.add_comm 1]
        · simp [hmem, List.count_eq_zero_of_not_mem hmem]
      · simp [hfirst, Ne.symm hfirst]

theorem getElem?_tally (names : List String) (n : String) :
    (tally names)[n]? = if n ∈ names then some (names.count n) else none := by
  rw [tally, getElem?_foldl_tally, Std.ExtTreeMap.getElem?_empty, Option.getD_none, Nat.zero_add]

theorem nodup_map_fst {β : Type} {entries : List (String × β)} {m : StringMap β}
    (h : entries.Perm m.toList) : (entries.map (·.1)).Nodup := by
  have hkeys : (m.toList.map (·.1)).Nodup := by
    rw [Std.ExtTreeMap.map_fst_toList_eq_keys]
    exact Std.ExtTreeMap.nodup_keys
  exact (h.map _).nodup_iff.2 hkeys

theorem count_filterMap_server? (members : List Member) (server : String) :
    (members.filterMap Member.server?).count server = members.countP fun m => m.IsOf server := by
  rw [List.count, List.countP_filterMap]
  refine List.countP_congr fun m _ => ?_
  rw [decide_eq_true_iff, ← Member.server?_eq_some_iff]
  cases m.server? <;> simp

theorem mem_serversOf {members : List Member} {u : ServerUsers} :
    u ∈ serversOf members ↔ (∃ m ∈ members, m.IsOf u.serverName) ∧
      u.numUsers = members.countP fun m => m.IsOf u.serverName := by
  rw [serversOf, List.mem_mergeSort, List.mem_map]
  simp only [Prod.exists, Std.ExtTreeMap.mem_toList_iff_getElem?_eq_some, getElem?_tally,
    Option.ite_none_right_eq_some, List.mem_filterMap, Member.server?_eq_some_iff,
    ← count_filterMap_server?]
  constructor
  · rintro ⟨name, n, ⟨hname, hn⟩, rfl⟩
    exact ⟨hname, (Option.some.inj hn).symm⟩
  · rintro ⟨hname, hn⟩
    exact ⟨u.serverName, u.numUsers, ⟨hname, congrArg some hn.symm⟩, rfl⟩

theorem mem_sortedAliases {entries : List (String × List String)} {m : StringMap (List String)}
    (hentries : entries.Perm m.toList) {a : ServerAliases} :
    a ∈ sortedAliases entries ↔ ∃ stored, m[a.serverName]? = some stored ∧
      a.aliases.Perm stored ∧ a.aliases.Pairwise (· ≤ ·) := by
  have hsorted (stored : List String) :
      (stored.mergeSort fun a b => (compare a b).isLE).Pairwise (· ≤ ·) := by
    refine (pairwise_isLE_mergeSort compare stored).imp fun h => ?_
    exact compare_le_iff_le.1 (Ordering.isLE_iff_ne_gt.1 h)
  rw [sortedAliases, List.mem_mergeSort, List.mem_map]
  simp only [Prod.exists, hentries.mem_iff, Std.ExtTreeMap.mem_toList_iff_getElem?_eq_some]
  constructor
  · rintro ⟨server, stored, hstored, rfl⟩
    exact ⟨stored, hstored, List.mergeSort_perm .., hsorted stored⟩
  · rintro ⟨stored, hstored, hperm, hle⟩
    refine ⟨a.serverName, stored, hstored, ?_⟩
    have heq : (stored.mergeSort fun a b => (compare a b).isLE) = a.aliases :=
      List.Perm.eq_of_pairwise (fun _ _ _ _ => le_antisymm) (hsorted stored) hle
        ((List.mergeSort_perm ..).trans hperm.symm)
    rw [heq]

theorem servers_sorted (members : List Member) :
    (serversOf members).Pairwise (LargerFirst (·.numUsers) (·.serverName)) := by
  refine pairwise_mergeSort_bySize ServerUsers.numUsers ServerUsers.serverName ?_
  rw [List.map_map]
  exact nodup_map_fst (.refl _)

theorem aliases_sorted {entries : List (String × List String)} {m : StringMap (List String)}
    (hentries : entries.Perm m.toList) :
    (sortedAliases entries).Pairwise (LargerFirst (·.aliases.length) (·.serverName)) := by
  refine pairwise_mergeSort_bySize (fun a : ServerAliases => a.aliases.length) (·.serverName) ?_
  rw [List.map_map]
  exact nodup_map_fst hentries

theorem members_sorted {members : List Member} (h : (members.map (·.userId)).Nodup) :
    (joined members).Pairwise Member.Before := by
  rw [List.Nodup, List.pairwise_map] at h
  have hne : (members.filter Member.isJoined).Pairwise fun a b => a.order b ≠ .eq :=
    (h.imp fun hne heq => hne (Member.userId_eq_of_order_eq heq)).filter _
  exact (pairwise_lt_mergeSort hne).imp Member.order_eq_lt_iff.1

/-! ## Counting -/

/-- A server has one entry. -/
theorem Projects.nodup_serverNames (h : r.Projects s) : (r.servers.map (·.serverName)).Nodup := by
  rw [List.Nodup, List.pairwise_map]
  refine h.servers_sorted.imp_of_mem fun {a b} ha hb hbefore hname => ?_
  have hsize : b.numUsers = a.numUsers := by
    rw [((h.mem_servers a).1 ha).2, ((h.mem_servers b).1 hb).2, hname]
  rcases hbefore with hlt | ⟨-, hlt⟩
  · exact absurd hsize (Nat.ne_of_lt hlt)
  · exact absurd hname hlt.ne

/-- Every member whose user id names a server is counted once. -/
theorem Projects.sum_numUsers (h : r.Projects s) :
    (r.servers.map (·.numUsers)).sum = r.members.countP (':' ∈ ·.userId.toList) := by
  have hnames : (r.servers.map (·.serverName)).Perm (r.members.filterMap Member.server?).dedup := by
    refine (List.perm_ext_iff_of_nodup h.nodup_serverNames (List.nodup_dedup _)).2 fun name => ?_
    rw [List.mem_dedup, List.mem_filterMap, List.mem_map]
    simp only [Member.server?_eq_some_iff]
    constructor
    · rintro ⟨u, hu, rfl⟩
      exact ((h.mem_servers u).1 hu).1
    · intro hname
      let u : ServerUsers := ⟨name, r.members.countP fun m => m.IsOf name⟩
      exact ⟨u, (h.mem_servers u).2 ⟨hname, rfl⟩, rfl⟩
  calc (r.servers.map (·.numUsers)).sum
      = ((r.servers.map (·.serverName)).map (r.members.filterMap Member.server?).count).sum := by
        rw [List.map_map]
        refine congrArg List.sum (List.map_congr_left fun u hu => ?_)
        rw [Function.comp_apply, count_filterMap_server?]
        exact ((h.mem_servers u).1 hu).2
    _ = (r.members.filterMap Member.server?).length := by
        rw [(hnames.map _).sum_eq, List.sum_map_count_dedup_eq_length]
    _ = r.members.countP (':' ∈ ·.userId.toList) := by
        rw [List.length_filterMap_eq_countP]
        refine List.countP_congr fun m _ => ?_
        rw [Member.isSome_server?_iff, decide_eq_true_iff]

end Roster

namespace RoomState

/-- What all events keep: a member is filed under its user id, and a server without aliases is not
filed at all. -/
structure Sound (s : RoomState) : Prop where
  userId : ∀ (user : String) m, s.memberMap[user]? = some m → m.userId = user
  published : ∀ (server : String) aliases, s.aliasMap[server]? = some aliases → aliases ≠ []

/-- What may be done to a state. -/
inductive Change where
  | apply (events : List Event) (usePrev : Bool)
  | recalculate

def change (s : RoomState) : Change → RoomState
  | .apply events usePrev => s.apply events usePrev
  | .recalculate => s.recalculate

/-- What becomes of the empty state. -/
def after (changes : List Change) : RoomState := changes.foldl change {}

variable {s : RoomState}

theorem ne_nil_of_aliasesOf? {e : Event} {server : String} {aliases : List String}
    (h : e.aliasesOf? server = some aliases) : aliases ≠ [] := by
  unfold Event.aliasesOf? at h
  split at h
  · obtain ⟨⟨-, hne⟩, haliases⟩ := Option.ite_none_right_eq_some.1 h
    cases haliases
    exact hne
  · cases h

theorem Sound.applyEvent (h : s.Sound) (e : Event) (usePrev : Bool) :
    (s.applyEvent e usePrev).Sound := by
  refine ⟨fun user m hm => ?_, fun server aliases haliases => ?_⟩
  · rw [getElem?_memberMap_applyEvent] at hm
    exact Member.userId_of_foldl_take (h.userId user) hm
  · rw [getElem?_aliasMap_applyEvent] at haliases
    rcases Option.or_eq_some_iff.1 haliases with hnew | ⟨-, hold⟩
    · exact ne_nil_of_aliasesOf? hnew
    · exact h.published server aliases hold

theorem Sound.recalculate (h : s.Sound) : s.recalculate.Sound := by
  refine ⟨fun user m hm => ?_, h.published⟩
  rw [getElem?_recalculate] at hm
  obtain ⟨known, hknown, rfl⟩ := Option.map_eq_some_iff.1 hm
  exact h.userId user known hknown

theorem Sound.apply (h : s.Sound) (events : List Event) (usePrev : Bool) :
    (s.apply events usePrev).Sound := by
  induction events generalizing s with
  | nil => exact h
  | cons e events ih => exact ih (h.applyEvent e usePrev)

theorem Sound.change (h : s.Sound) (c : Change) : (s.change c).Sound := by
  cases c with
  | apply events usePrev => exact h.apply events usePrev
  | recalculate => exact h.recalculate

theorem sound_after (changes : List Change) : (after changes).Sound := by
  have hfrom (s : RoomState) (h : s.Sound) : (changes.foldl RoomState.change s).Sound := by
    induction changes generalizing s with
    | nil => exact h
    | cons c changes ih => exact ih _ (h.change c)
  exact hfrom {} ⟨fun user m hm => by simp at hm, fun server aliases h => by simp at h⟩

/-! ## Deriving anew -/

theorem Sound.mem_values (h : s.Sound) {m : Member} :
    m ∈ s.memberMap.toList.map (·.2) ↔ s.memberMap[m.userId]? = some m := by
  simp only [List.mem_map, Prod.exists, Std.ExtTreeMap.mem_toList_iff_getElem?_eq_some]
  constructor
  · rintro ⟨user, m, hm, rfl⟩
    rwa [h.userId user m hm]
  · intro hm
    exact ⟨m.userId, m, hm, rfl⟩

theorem Sound.nodup_userIds (h : s.Sound) {members : List Member}
    (hmembers : members.Perm (s.memberMap.toList.map (·.2))) :
    (members.map (·.userId)).Nodup := by
  have hkeys : (s.memberMap.toList.map (·.2)).map (·.userId) = s.memberMap.toList.map (·.1) := by
    rw [List.map_map]
    refine List.map_congr_left fun e he => ?_
    exact h.userId e.1 e.2 (Std.ExtTreeMap.mem_toList_iff_getElem?_eq_some.1 he)
  rw [(hmembers.map _).nodup_iff, hkeys]
  exact Roster.nodup_map_fst (.refl _)

/-- In whatever order the maps are gone through, the roster holds what it should. -/
theorem Sound.projects_ofEntries (h : s.Sound) {members : List Member}
    {aliases : List (String × List String)}
    (hmembers : members.Perm (s.recalculate.memberMap.toList.map (·.2)))
    (haliases : aliases.Perm s.aliasMap.toList) :
    (Roster.ofEntries members aliases).Projects s where
  mem_members m := by
    rw [Roster.ofEntries, Roster.joined, List.mem_mergeSort, List.mem_filter, hmembers.mem_iff,
      h.recalculate.mem_values, getElem?_recalculate, Option.map_eq_some_iff, Member.isJoined,
      beq_iff_eq]
    constructor
    · rintro ⟨⟨known, hknown, rfl⟩, hjoin⟩
      exact ⟨known, hknown, hjoin, rfl, PowerLevels.assigns_iff.2 rfl⟩
    · rintro ⟨known, hknown, hjoin, hm, hassigns⟩
      have hlevel : known.atLevel (s.powerLevels.userLevel known.userId) = m := by
        rw [h.userId _ known hknown, ← PowerLevels.assigns_iff.1 hassigns, ← hm]
      refine ⟨⟨known, hknown, hlevel⟩, ?_⟩
      rw [hm]
      exact hjoin
  members_sorted := Roster.members_sorted (h.recalculate.nodup_userIds hmembers)
  mem_servers _ := Roster.mem_serversOf
  servers_sorted := Roster.servers_sorted _
  mem_aliases _ := Roster.mem_sortedAliases haliases
  aliases_sorted := Roster.aliases_sorted haliases

theorem Sound.projects_roster (h : s.Sound) : s.recalculate.roster.Projects s := by
  have hroster : s.recalculate.roster = .ofMaps s.recalculate.memberMap s.aliasMap := rfl
  rw [hroster, Roster.ofMaps_eq_ofEntries]
  exact h.projects_ofEntries (.refl _) (.refl _)

theorem Sound.head_aliases (h : s.Sound) {a : ServerAliases} {rest : List ServerAliases}
    (haliases : s.recalculate.aliases = a :: rest) :
    ∃ first more, a.aliases = first :: more := by
  have ha : a ∈ s.recalculate.roster.aliases := by
    rw [← RoomState.aliases, haliases]
    exact List.mem_cons_self
  obtain ⟨stored, hstored, hperm, -⟩ := (h.projects_roster.mem_aliases a).1 ha
  refine List.exists_cons_of_ne_nil fun hnil => h.published _ stored hstored ?_
  rw [hnil] at hperm
  exact hperm.nil_eq.symm

theorem displayName_of_nameless (hname : ∀ n, s.name = some n → n = "")
    (hcanonical : ∀ a, s.canonicalAlias = some a → a = "") :
    s.displayName =
      ((Roster.aliasesOf s.aliasMap).findSome? (·.aliases.head?)).getD "Empty Room" := by
  have hnone (t : Option String) (h : ∀ n, t = some n → n = "") : nonempty? t = none := by
    cases t with
    | none => rfl
    | some n =>
        rw [h n rfl]
        rfl
  rw [displayName, hnone _ hname, hnone _ hcanonical]
  rfl

end RoomState

/-- Deriving anew gives the one roster that lists the joined members, their servers and the
published aliases, each in its order, and that is the roster in whatever order the members and the
aliases are gone through. A room without a name goes by the first alias of the roster. -/
theorem recalculate_is_sorted_projection (changes : List RoomState.Change) :
    let s := RoomState.after changes
    s.recalculate.roster.Projects s ∧
      (∀ r : Roster, r.Projects s → r = s.recalculate.roster) ∧
      (∀ members aliases, members.Perm (s.recalculate.memberMap.toList.map (·.2)) →
        aliases.Perm s.aliasMap.toList → Roster.ofEntries members aliases = s.recalculate.roster) ∧
      (s.recalculate.servers.map (·.numUsers)).sum =
        s.recalculate.members.countP (':' ∈ ·.userId.toList) ∧
      s.recalculate.recalculate = s.recalculate ∧
      ((∀ n, s.name = some n → n = "") → (∀ a, s.canonicalAlias = some a → a = "") →
        (s.recalculate.aliases = [] ∧ s.recalculate.displayName = "Empty Room") ∨
          ∃ a rest first more, s.recalculate.aliases = a :: rest ∧ a.aliases = first :: more ∧
            s.recalculate.displayName = first) := by
  intro s
  have hs : s.Sound := RoomState.sound_after changes
  refine ⟨hs.projects_roster, fun r hr => hr.unique hs.projects_roster, ?_, ?_,
    RoomState.recalculate_recalculate s, ?_⟩
  · intro members aliases hmembers haliases
    exact (hs.projects_ofEntries hmembers haliases).unique hs.projects_roster
  · exact hs.projects_roster.sum_numUsers
  · intro hname hcanonical
    have hdisplay : s.recalculate.displayName =
        (s.recalculate.aliases.findSome? (·.aliases.head?)).getD "Empty Room" :=
      RoomState.displayName_of_nameless hname hcanonical
    cases haliases : s.recalculate.aliases with
    | nil =>
        rw [haliases] at hdisplay
        exact .inl ⟨rfl, hdisplay⟩
    | cons a rest =>
        obtain ⟨first, more, hfirst⟩ := hs.head_aliases haliases
        rw [haliases, List.findSome?_cons, hfirst] at hdisplay
        exact .inr ⟨a, rest, first, more, rfl, hfirst, hdisplay⟩

end RoomReader
