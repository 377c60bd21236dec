import Mathlib
import RoomReader.Homeserver.Log
import RoomReader.Proofs.Text.Form
import RoomReader.Server.Basic

namespace RoomReader

/-!
# Where an alias leads

For an hour an alias leads to the room that the homeserver named for it. After that, and whenever
the last answer named none, the homeserver is asked again.
-/

/-! ## The location of a redirect -/

/-- Behind a place and `/room/` stands one segment, which is the id of a room in form coding. As a
path it is read as the id too, if there is no space in the id. -/
def Server.NamesRoom (place location room : String) : Prop :=
  ∃ segment : String, location = place ++ "/room/" ++ segment ∧
    (∀ c ∈ segment.toList, c ∉ ['/', '?', '#']) ∧ Form.decode (Utf8.encode segment) = room ∧
    (' ' ∉ room.toList → Percent.decodeText? segment = some room)

theorem Server.namesRoom_roomPath (place room : String) :
    NamesRoom place (roomPath place room) room := by
  refine ⟨Form.encode room, rfl, ?_, Form.decode_encode room, ?_⟩
  · intro c hc hend
    have hends : ['/', '?', '#'].all (! Form.isCoded ·) = true := by decide +kernel
    have hcoded := List.all_eq_true.1 hends c hend
    rw [Form.isCoded_of_mem_encode hc] at hcoded
    cases hcoded
  · intro hspace
    rw [Form.decodeText?_encode, Form.plusForSpaces_eq_self_iff.2 hspace]

/-- A temporary redirect, with a location that names a room. -/
def Response.RedirectsTo (place room : String) (r : Response) : Prop :=
  r.status = 307 ∧ ∃ location, r.location = some location ∧ Server.NamesRoom place location room

theorem Response.redirectsTo_roomPath (place room : String) :
    (redirect (Server.roomPath place room)).RedirectsTo place room :=
  ⟨rfl, _, rfl, Server.namesRoom_roomPath place room⟩

/-! ## What the homeserver named -/

/-- A call that was made, with the answer if there was one. -/
structure Asked where
  call : Call
  answer : Option (Except ApiError call.Reply)

/-- The same homeserver, which notes all calls that are made, also those that never come back. -/
def Homeserver.watched {σ : Type} (hs : Homeserver σ) : Homeserver (σ × List Asked) :=
  ⟨fun c s =>
    let (answer, s') := hs.respond c s.1
    (answer, s', s.2 ++ [⟨c, answer⟩])⟩

theorem Exchange.asked_of_call {σ : Type} {hs : Homeserver σ} {c : Call} {s s' : σ}
    {answer : Option (Except ApiError c.Reply)} {asked asked' : List Asked}
    (h : (call c).run hs.watched (s, asked) = (answer, s', asked')) :
    asked' = asked ++ [⟨c, answer⟩] := by
  rcases hc : hs.respond c s with ⟨_ | reply, s₁⟩ <;>
    · simp only [call, run, Homeserver.watched, hc] at h
      cases h
      rfl

def Asked.named? (roomAlias : String) : Asked → Option String
  | ⟨.resolveAlias called, some (.ok answer)⟩ =>
    if called = roomAlias ∧ answer.roomId ≠ "" then some answer.roomId else none
  | _ => none

/-- A request for an alias: when it was made, what the homeserver was asked, and the response. -/
structure Resolution where
  time : Time
  roomAlias : String
  asked : List Asked
  response : Option Response

def Resolution.named? (roomAlias : String) (a : Resolution) : Option (String × Time) :=
  (a.asked.filterMap (Asked.named? roomAlias)).getLast?.map fun room => (room, a.time)

/-- The room that was named last for an alias, and when. -/
def lastNamed? (past : List Resolution) (roomAlias : String) : Option (String × Time) :=
  (past.filterMap (Resolution.named? roomAlias)).getLast?

/-- Whatever room was named last for an alias, it was named too long ago. -/
def Stale (past : List Resolution) (roomAlias : String) (now : Time) : Prop :=
  ∀ room t, lastNamed? past roomAlias = some (room, t) → AliasCache.ttl ≤ now - t

section

variable {past : List Resolution} {a : Resolution} {roomAlias other : String} {now now' : Time}

theorem lastNamed?_concat :
    lastNamed? (past ++ [a]) roomAlias = (a.named? roomAlias).or (lastNamed? past roomAlias) := by
  rw [lastNamed?, List.filterMap_append, List.getLast?_append]
  cases h : a.named? roomAlias <;> simp [h, lastNamed?]

theorem lastNamed?_append_of_none {later : List Resolution}
    (h : ∀ b ∈ later, b.named? roomAlias = none) :
    lastNamed? (past ++ later) roomAlias = lastNamed? past roomAlias := by
  rw [lastNamed?, List.filterMap_append, List.filterMap_eq_nil_iff.2 h, List.append_nil]
  rfl

theorem Stale.mono (h : Stale past roomAlias now) (hnow : now ≤ now') :
    Stale past roomAlias now' := by
  intro room t hlast
  exact Int.le_trans (h room t hlast) (Int.sub_le_sub_right hnow t)

/-- How a request for an alias goes, after what was named before. -/
inductive Resolution.Follows (place : String) (past : List Resolution) : Resolution → Prop
  | remembered {time t : Time} {roomAlias room : String} {response : Response}
      (hlast : lastNamed? past roomAlias = some (room, t)) (hage : time - t < AliasCache.ttl)
      (hresponse : response.RedirectsTo place room) :
      Follows place past ⟨time, roomAlias, [], some response⟩
  | named {time : Time} {roomAlias : String} {answer : RoomAlias} {response : Response}
      (hstale : Stale past roomAlias time) (hroom : answer.roomId ≠ "")
      (hresponse : response.RedirectsTo place answer.roomId) :
      Follows place past ⟨time, roomAlias, [⟨.resolveAlias roomAlias, some (.ok answer)⟩],
        some response⟩
  | empty {time : Time} {roomAlias reason : String} {answer : RoomAlias}
      (hstale : Stale past roomAlias time) (hroom : answer.roomId = "") :
      Follows place past ⟨time, roomAlias, [⟨.resolveAlias roomAlias, some (.ok answer)⟩],
        some (.ofError (.aliasNotFound roomAlias reason))⟩
  | failed {time : Time} {roomAlias : String} {e : ApiError}
      (hstale : Stale past roomAlias time) :
      Follows place past ⟨time, roomAlias, [⟨.resolveAlias roomAlias, some (.error e)⟩],
        some (.ofError (.aliasNotFound roomAlias e.describe))⟩
  /-- There is no response to a call that never comes back. -/
  | hung {time : Time} {roomAlias : String} (hstale : Stale past roomAlias time) :
      Follows place past ⟨time, roomAlias, [⟨.resolveAlias roomAlias, none⟩], none⟩

namespace Resolution.Follows

variable {place : String}

theorem named?_of_ne (h : a.Follows place past) (hne : a.roomAlias ≠ other) :
    a.named? other = none := by
  cases h <;> simp_all [Resolution.named?, Asked.named?]

theorem exists_asked (h : a.Follows place past) (hstale : Stale past a.roomAlias a.time) :
    ∃ answer, a.asked = [⟨.resolveAlias a.roomAlias, answer⟩] := by
  cases h with
  | remembered hlast hage _ => exact absurd (hstale _ _ hlast) (Int.not_le.2 hage)
  | named => exact ⟨_, rfl⟩
  | empty => exact ⟨_, rfl⟩
  | failed => exact ⟨_, rfl⟩
  | hung => exact ⟨_, rfl⟩

/-- Within the hour nothing is asked. -/
theorem redirected (h : a.Follows place past) (hstale : ¬ Stale past a.roomAlias a.time) :
    a.asked = [] ∧ ∃ response room t, a.response = some response ∧
      lastNamed? past a.roomAlias = some (room, t) ∧ response.RedirectsTo place room := by
  cases h with
  | remembered hlast _ hresponse => exact ⟨rfl, _, _, _, rfl, hlast, hresponse⟩
  | named h _ _ => exact absurd h hstale
  | empty h _ => exact absurd h hstale
  | failed h => exact absurd h hstale
  | hung h => exact absurd h hstale

theorem redirected_of_named (h : a.Follows place past) {answer : RoomAlias}
    (hasked : a.asked = [⟨.resolveAlias a.roomAlias, some (.ok answer)⟩])
    (hroom : answer.roomId ≠ "") :
    ∃ response, a.response = some response ∧ response.RedirectsTo place answer.roomId := by
  cases h with
  | remembered => cases hasked
  | named _ _ hresponse =>
      cases hasked
      exact ⟨_, rfl, hresponse⟩
  | empty _ hempty =>
      cases hasked
      exact absurd hempty hroom
  | failed => cases hasked
  | hung => cases hasked

/-- The homeserver fails, or names no room. -/
theorem notFound_of_unnamed (h : a.Follows place past) {answer : Except ApiError RoomAlias}
    (hasked : a.asked = [⟨.resolveAlias a.roomAlias, some answer⟩])
    (hempty : ∀ found, answer = .ok found → found.roomId = "") :
    (∃ reason, a.response = some (.ofError (.aliasNotFound a.roomAlias reason))) ∧
      a.named? a.roomAlias = none := by
  cases h with
  | remembered => cases hasked
  | named _ hroom _ =>
      cases hasked
      exact absurd (hempty _ rfl) hroom
  | empty _ hroom => exact ⟨⟨_, rfl⟩, by simp [Resolution.named?, Asked.named?, hroom]⟩
  | failed => exact ⟨⟨_, rfl⟩, rfl⟩
  | hung => cases hasked

/-- A response with a location leads to the room that was named last, and no longer than an hour
ago. -/
theorem of_location {response : Response} (h : a.Follows place past)
    (hresponse : a.response = some response) (hlocation : response.location ≠ none) :
    ∃ room t, lastNamed? (past ++ [a]) a.roomAlias = some (room, t) ∧
      a.time - t < AliasCache.ttl ∧ response.RedirectsTo place room := by
  rw [lastNamed?_concat]
  cases h with
  | @remembered time t roomAlias room _ hlast hage hredirects =>
      cases hresponse
      exact ⟨room, t, hlast, hage, hredirects⟩
  | @named time roomAlias answer _ hstale hroom hredirects =>
      cases hresponse
      refine ⟨answer.roomId, time, ?_, ?_, hredirects⟩
      · simp [Resolution.named?, Asked.named?, hroom]
      · rw [Int.sub_self]
        decide
  | empty =>
      cases hresponse
      exact absurd rfl hlocation
  | failed =>
      cases hresponse
      exact absurd rfl hlocation
  | hung => cases hresponse

end Resolution.Follows

/-- What is remembered was named last, and what is not remembered was named too long ago. -/
structure Remembers (past : List Resolution) (now : Time) (c : AliasCache) : Prop where
  entry : ∀ (roomAlias : String) (e : CachedAlias), c.entries[roomAlias]? = some e →
    lastNamed? past roomAlias = some (e.room, e.resolvedAt)
  gone : ∀ roomAlias : String, c.entries[roomAlias]? = none → Stale past roomAlias now

namespace Remembers

variable {c : AliasCache}

theorem empty (now : Time) : Remembers [] now {} := by
  refine ⟨fun roomAlias e h => ?_, fun roomAlias _ => nofun⟩
  simp at h

theorem mono (h : Remembers past now c) (hnow : now ≤ now') : Remembers past now' c :=
  ⟨h.entry, fun roomAlias hgone => (h.gone roomAlias hgone).mono hnow⟩

theorem forget (h : Remembers past now c) (hstale : Stale past roomAlias now) :
    Remembers past now { c with entries := c.entries.erase roomAlias } := by
  refine ⟨fun other e he => ?_, fun other hgone => ?_⟩
  · rw [Std.ExtTreeMap.getElem?_erase] at he
    split at he
    · cases he
    · exact h.entry other e he
  · by_cases hother : roomAlias = other
    · exact hother ▸ hstale
    · refine h.gone other ?_
      rw [Std.ExtTreeMap.getElem?_erase, if_neg (by simpa using hother)] at hgone
      exact hgone

/-- Nothing new was named. -/
theorem concat (h : Remembers past now c) (ha : ∀ roomAlias, a.named? roomAlias = none) :
    Remembers (past ++ [a]) now c := by
  have hsame (roomAlias : String) :
      lastNamed? (past ++ [a]) roomAlias = lastNamed? past roomAlias := by
    rw [lastNamed?_concat, ha, Option.none_or]
  refine ⟨fun roomAlias e he => ?_, fun roomAlias hgone room t hlast => ?_⟩
  · rw [hsame]
    exact h.entry roomAlias e he
  · rw [hsame] at hlast
    exact h.gone roomAlias hgone room t hlast

theorem remember {room : String} (h : Remembers past now c)
    (ha : a.named? roomAlias = some (room, now))
    (hother : ∀ other, other ≠ roomAlias → a.named? other = none) :
    Remembers (past ++ [a]) now (c.remember roomAlias room now) := by
  refine ⟨fun other e he => ?_, fun other hgone t hlast => ?_⟩
  · rw [AliasCache.remember, StringMap.getElem?_insert] at he
    rw [lastNamed?_concat]
    split at he
    · subst other
      cases he
      rw [ha, Option.some_or]
    · rename_i hne
      rw [hother other (Ne.symm hne), Option.none_or]
      exact h.entry other e he
  · rw [AliasCache.remember, StringMap.getElem?_insert] at hgone
    split at hgone
    · cases hgone
    · rename_i hne
      rw [lastNamed?_concat, hother other (Ne.symm hne), Option.none_or]
      exact h.gone other hgone t hlast

/-- A look-up finds what was named not too long ago, and otherwise leaves nothing. -/
theorem lookup (h : Remembers past now c) (roomAlias : String) :
    (∃ room t, lastNamed? past roomAlias = some (room, t) ∧ now - t < AliasCache.ttl ∧
      c.lookup roomAlias AliasCache.ttl now = (some room, c)) ∨
    Stale past roomAlias now ∧ ∃ c', c.lookup roomAlias AliasCache.ttl now = (none, c') ∧
      Remembers past now c' := by
  cases he : c.entries[roomAlias]? with
  | none => exact .inr ⟨h.gone roomAlias he, c, by simp only [AliasCache.lookup, he], h⟩
  | some e =>
      have hlast := h.entry roomAlias e he
      by_cases hage : now - e.resolvedAt < AliasCache.ttl
      · exact .inl ⟨e.room, e.resolvedAt, hlast, hage,
          by simp only [AliasCache.lookup, he, hage, if_true]⟩
      · have hstale : Stale past roomAlias now := by
          intro room t hlast'
          rw [hlast] at hlast'
          cases hlast'
          exact Int.not_lt.1 hage
        exact .inr ⟨hstale, _, by simp only [AliasCache.lookup, he, hage, if_false],
          h.forget hstale⟩

end Remembers

end

namespace Server

variable {σ : Type} {hs : Homeserver σ} {past : List Resolution} {roomAlias query : String}
  {now now' : Time} {srv srv' : Server} {s s' : σ} {response : Option Response} {asked : List Asked}

theorem follows_get (h : Remembers past now srv.aliases)
    (hget : srv.get hs.watched now (.resolve roomAlias) query (s, []) =
      (response, srv', s', asked)) :
    Resolution.Follows srv.settings.routePrefix past ⟨now, roomAlias, asked, response⟩ ∧
      Remembers (past ++ [⟨now, roomAlias, asked, response⟩]) now srv'.aliases ∧
      srv'.settings = srv.settings := by
  have hnone {past : List Resolution} {c : AliasCache} {a : Resolution} (h : Remembers past now c)
      (ha : ∀ roomAlias, a.asked.filterMap (Asked.named? roomAlias) = []) :
      Remembers (past ++ [a]) now c := by
    refine h.concat fun roomAlias => ?_
    rw [Resolution.named?, ha]
    rfl
  rcases h.lookup roomAlias with ⟨room, t, hlast, hage, hlookup⟩ | ⟨hstale, c, hlookup, hc⟩
  · simp only [get, resolveAlias, hlookup] at hget
    cases hget
    exact ⟨.remembered hlast hage (Response.redirectsTo_roomPath ..), hnone h fun _ => rfl, rfl⟩
  · simp only [get, resolveAlias, hlookup] at hget
    generalize hrun : (Exchange.call (.resolveAlias roomAlias)).run hs.watched (s, []) = result
      at hget
    obtain ⟨answer, s₁, asked₁⟩ := result
    obtain rfl := Exchange.asked_of_call hrun
    rcases answer with _ | e | answer
    · cases hget
      exact ⟨.hung hstale, hnone hc fun _ => rfl, rfl⟩
    · cases hget
      exact ⟨.failed hstale, hnone hc fun _ => rfl, rfl⟩
    · dsimp only at hget
      by_cases hroom : answer.roomId = ""
      · rw [if_pos (String.isEmpty_iff.2 hroom)] at hget
        cases hget
        refine ⟨.empty hstale hroom, hnone hc fun other => ?_, rfl⟩
        simp [Asked.named?, hroom]
      · rw [if_neg (mt String.isEmpty_iff.1 hroom)] at hget
        cases hget
        refine ⟨.named hstale hroom (Response.redirectsTo_roomPath ..),
          hc.remember ?_ fun other hother => ?_, rfl⟩
        · simp [Resolution.named?, Asked.named?, hroom]
        · simp [Resolution.named?, Asked.named?, Ne.symm hother]

def Alike (srv srv' : Server) : Prop :=
  srv'.aliases = srv.aliases ∧ srv'.settings = srv.settings

theorem alike_roomPage (hs : Homeserver σ) (now : Time) (job : Job) (page : job.Reply → Json)
    (srv : Server) (s : σ) : srv.Alike (srv.roomPage hs now job page s).2.1 := by
  have hjob : srv.Alike (srv.roomJob hs now job s).2.1 := by
    unfold roomJob
    split
    · split <;> exact ⟨rfl, rfl⟩
    · exact ⟨rfl, rfl⟩
  unfold roomPage
  generalize srv.roomJob hs now job s = p at *
  obtain ⟨reply, srv', s'⟩ := p
  cases reply <;> exact hjob

theorem alike_withQuery {α : Type} {query : Option α} {f : α → Server → σ → Response × Server × σ}
    (h : ∀ a, srv.Alike (f a srv s).2.1) : srv.Alike (srv.withQuery query f s).2.1 := by
  cases query with
  | none => exact ⟨rfl, rfl⟩
  | some a => exact h a

theorem alike_get {route : Route} (hroute : ∀ roomAlias, route ≠ .resolve roomAlias)
    (srv : Server) (s : σ) : srv.Alike (srv.get hs now route query s).2.1 := by
  cases route with
  | directory => exact alike_withQuery fun _ => ⟨rfl, rfl⟩
  | resolve roomAlias => exact absurd rfl (hroute roomAlias)
  | room room => exact alike_withQuery fun _ => alike_roomPage ..
  | permalink room event => exact ⟨rfl, rfl⟩
  | members room => exact alike_withQuery fun _ => alike_roomPage ..
  | member room user => exact alike_roomPage ..
  | servers room => exact alike_withQuery fun _ => alike_roomPage ..
  | aliases room => exact alike_withQuery fun _ => alike_roomPage ..
  | powerLevels room => exact alike_roomPage ..

/-- The requests for aliases that were made since nothing was remembered, up to some time. In
between anything may happen at the homeserver, and anything at the server that leaves its aliases
alone. -/
inductive Resolves (hs : Homeserver σ) : List Resolution → Time → Server → σ → Prop
  | start {now : Time} {srv : Server} {s : σ} (h : srv.aliases = {}) : Resolves hs [] now srv s
  | request {past : List Resolution} {now now' : Time} {srv srv' : Server} {s s' : σ}
      {roomAlias query : String} {response : Option Response} {asked : List Asked}
      (h : Resolves hs past now srv s) (hnow : now ≤ now')
      (hget : srv.get hs.watched now' (.resolve roomAlias) query (s, []) =
        (response, srv', s', asked)) :
      Resolves hs (past ++ [⟨now', roomAlias, asked, response⟩]) now' srv' s'
  | aside {past : List Resolution} {now now' : Time} {srv srv' : Server} {s s' : σ}
      (h : Resolves hs past now srv s) (hnow : now ≤ now') (halike : srv.Alike srv') :
      Resolves hs past now' srv' s'

/-- The other routes leave the aliases alone. -/
theorem Resolves.get (h : Resolves hs past now srv s) (hnow : now ≤ now') {route : Route}
    (hroute : ∀ roomAlias, route ≠ .resolve roomAlias)
    (hget : srv.get hs now' route query s = (response, srv', s')) :
    Resolves hs past now' srv' s' := by
  have halike : srv.Alike (srv.get hs now' route query s).2.1 := alike_get hroute srv s
  rw [hget] at halike
  exact h.aside hnow halike

theorem Resolves.remembers (h : Resolves hs past now srv s) : Remembers past now srv.aliases := by
  induction h with
  | start h =>
      rw [h]
      exact .empty _
  | request _ hnow hget ih => exact (follows_get (ih.mono hnow) hget).2.1
  | aside _ hnow halike ih =>
      rw [halike.1]
      exact ih.mono hnow

/-- Every request goes as it has to after those before it. -/
theorem Resolves.follows (h : Resolves hs past now srv s) {before after : List Resolution}
    {a : Resolution} (hpast : past = before ++ a :: after) :
    a.Follows srv.settings.routePrefix before := by
  induction h generalizing after with
  | start => cases before <;> cases hpast
  | request h hnow hget ih =>
      obtain ⟨hfollows, -, hsettings⟩ := follows_get (h.remembers.mono hnow) hget
      rw [hsettings]
      -- The request is the last one, or it is one of those before.
      rcases after.eq_nil_or_concat with rfl | ⟨after, b, rfl⟩
      · obtain ⟨rfl, hlast⟩ := List.append_inj' hpast rfl
        cases hlast
        exact hfollows
      · have hsplit : before ++ a :: after.concat b = (before ++ a :: after) ++ [b] := by simp
        exact ih (List.append_inj' (hpast.trans hsplit) rfl).1
  | aside _ _ halike ih =>
      rw [halike.2]
      exact ih hpast

theorem Resolves.sorted (h : Resolves hs past now srv s) :
    past.Pairwise (fun a b => a.time ≤ b.time) ∧ ∀ a ∈ past, a.time ≤ now := by
  induction h with
  | start => exact ⟨.nil, nofun⟩
  | request _ hnow _ ih =>
      obtain ⟨hpairwise, hpast⟩ := ih
      refine ⟨List.pairwise_append.2 ⟨hpairwise, List.pairwise_singleton .., ?_⟩, ?_⟩
      · intro a ha b hb
        cases List.mem_singleton.1 hb
        exact Int.le_trans (hpast a ha) hnow
      · intro a ha
        rcases List.mem_append.1 ha with ha | ha
        · exact Int.le_trans (hpast a ha) hnow
        · cases List.mem_singleton.1 ha
          exact Int.le_refl _
  | aside _ hnow _ ih => exact ⟨ih.1, fun a ha => Int.le_trans (ih.2 a ha) hnow⟩

/-- After a request that had to ask and was named no room, the next one for its alias asks. -/
theorem Resolves.asks_again (h : Resolves hs past now srv s)
    {before after between rest : List Resolution} {a b : Resolution}
    (hpast : past = before ++ a :: after) (hafter : after = between ++ b :: rest)
    (hsame : b.roomAlias = a.roomAlias) (hunnamed : a.named? a.roomAlias = none)
    (hother : ∀ c ∈ between, c.roomAlias ≠ a.roomAlias) (hasked : a.asked ≠ []) :
    ∃ answer, b.asked = [⟨.resolveAlias a.roomAlias, answer⟩] := by
  subst hpast hafter
  have hstale : Stale before a.roomAlias a.time :=
    Classical.byContradiction fun hfresh => hasked ((h.follows rfl).redirected hfresh).1
  -- From then on nothing was named for the alias, so what was stale is stale still.
  have hbetween : ∀ c ∈ a :: between, c.named? a.roomAlias = none := by
    intro c hc
    rcases List.mem_cons.1 hc with rfl | hc
    · exact hunnamed
    · obtain ⟨left, right, rfl⟩ := List.append_of_mem hc
      have hsplit : before ++ a :: (left ++ c :: right ++ b :: rest) =
          (before ++ a :: left) ++ c :: (right ++ b :: rest) := by simp
      exact (h.follows hsplit).named?_of_ne (hother c hc)
  have hsplit : before ++ a :: (between ++ b :: rest) = (before ++ a :: between) ++ b :: rest := by
    simp
  have htime : a.time ≤ b.time :=
    (List.pairwise_cons.1 (List.pairwise_append.1 h.sorted.1).2.1).1 b (by simp)
  rw [← hsame]
  refine (h.follows hsplit).exists_asked ?_
  intro room t hlast
  rw [lastNamed?_append_of_none (hsame ▸ hbetween), hsame] at hlast
  exact hstale.mono htime room t hlast

/-- Every location that is given for an alias names the room that the homeserver named last, less
than an hour ago. The homeserver is asked exactly if it has not named a room for so long. If it
fails or names no room the alias is not found, and the next request for it asks again. What is
remembered was named last. -/
theorem alias_requests (h : Resolves hs past now srv s) {before after : List Resolution}
    {a : Resolution} (hpast : past = before ++ a :: after) :
    (∀ response, a.response = some response → response.location ≠ none →
      ∃ room t, lastNamed? (before ++ [a]) a.roomAlias = some (room, t) ∧
        a.time - t < AliasCache.ttl ∧ response.RedirectsTo srv.settings.routePrefix room) ∧
    (¬ Stale before a.roomAlias a.time →
      a.asked = [] ∧ ∃ response room t, a.response = some response ∧
        lastNamed? before a.roomAlias = some (room, t) ∧
        response.RedirectsTo srv.settings.routePrefix room) ∧
    (Stale before a.roomAlias a.time →
      ∃ answer, a.asked = [⟨.resolveAlias a.roomAlias, answer⟩]) ∧
    (∀ answer : RoomAlias, a.asked = [⟨.resolveAlias a.roomAlias, some (.ok answer)⟩] →
      answer.roomId ≠ "" → ∃ response, a.response = some response ∧
        response.RedirectsTo srv.settings.routePrefix answer.roomId) ∧
    (∀ answer : Except ApiError RoomAlias,
      a.asked = [⟨.resolveAlias a.roomAlias, some answer⟩] →
      (∀ found, answer = .ok found → found.roomId = "") →
      (∃ reason, a.response = some (.ofError (.aliasNotFound a.roomAlias reason))) ∧
      ∀ between b rest, after = between ++ b :: rest → b.roomAlias = a.roomAlias →
        (∀ c ∈ between, c.roomAlias ≠ a.roomAlias) →
        ∃ answer, b.asked = [⟨.resolveAlias a.roomAlias, answer⟩]) ∧
    ∀ (roomAlias : String) (e : CachedAlias), srv.aliases.entries[roomAlias]? = some e →
      lastNamed? past roomAlias = some (e.room, e.resolvedAt) := by
  have hfollows := h.follows hpast
  refine ⟨fun response => hfollows.of_location, hfollows.redirected, hfollows.exists_asked,
    fun answer => hfollows.redirected_of_named, fun answer hasked hempty => ?_,
    h.remembers.entry⟩
  obtain ⟨hresponse, hunnamed⟩ := hfollows.notFound_of_unnamed hasked hempty
  exact ⟨hresponse, fun between b rest hafter hsame hother =>
    h.asks_again hpast hafter hsame hunnamed hother (by simp [hasked])⟩

end Server

/-! An alias that comes to lead to another room while the first one is remembered. -/

namespace SmallAliases

def hall : String := "#hall:hs.one"

def before : LogServer := LogServer.setAlias {} hall "!hall:hs.one"

def after : LogServer := before.setAlias hall "!cellar:hs.one"

def srv : Server := .ofSettings {} ""

def first : Option Response × Server × LogServer × List Asked :=
  srv.get LogServer.homeserver.watched 0 (.resolve hall) "" (before, [])

def second : Option Response × Server × LogServer × List Asked :=
  first.2.1.get LogServer.homeserver.watched (AliasCache.ttl - 1) (.resolve hall) "" (after, [])

def third : Option Response × Server × LogServer × List Asked :=
  second.2.1.get LogServer.homeserver.watched AliasCache.ttl (.resolve hall) "" (after, [])

def named : Resolution := ⟨0, hall, first.2.2.2, first.1⟩

def remembered : Resolution := ⟨AliasCache.ttl - 1, hall, second.2.2.2, second.1⟩

def renewed : Resolution := ⟨AliasCache.ttl, hall, third.2.2.2, third.1⟩

theorem resolves : Server.Resolves LogServer.homeserver [named, remembered, renewed]
    AliasCache.ttl third.2.1 third.2.2.1 := by
  have hnamed : srv.get LogServer.homeserver.watched 0 (.resolve hall) "" (before, []) =
      (first.1, first.2.1, first.2.2.1, first.2.2.2) := rfl
  have hremembered : first.2.1.get LogServer.homeserver.watched (AliasCache.ttl - 1)
      (.resolve hall) "" (after, []) = (second.1, second.2.1, second.2.2.1, second.2.2.2) := rfl
  have hrenewed : second.2.1.get LogServer.homeserver.watched AliasCache.ttl (.resolve hall) ""
      (after, []) = (third.1, third.2.1, third.2.2.1, third.2.2.2) := rfl
  have hstart : Server.Resolves LogServer.homeserver [] 0 srv before := .start rfl
  have hmoved : Server.Resolves LogServer.homeserver [named] 0 first.2.1 after :=
    (hstart.request (Int.le_refl 0) hnamed).aside (Int.le_refl 0) ⟨rfl, rfl⟩
  have hsame : Server.Resolves LogServer.homeserver [named, remembered] (AliasCache.ttl - 1)
      second.2.1 after :=
    (hmoved.request (by decide) hremembered).aside (Int.le_refl _) ⟨rfl, rfl⟩
  exact hsame.request (by decide) hrenewed

/-- Just before the hour is over the first answer is remembered, and then the second one is asked
for. -/
theorem hall_requests :
    remembered.asked = [] ∧
      (∃ response, remembered.response = some response ∧
        response.RedirectsTo "" "!hall:hs.one") ∧
      (∃ answer, renewed.asked = [⟨.resolveAlias hall, answer⟩]) ∧
      (∃ response, renewed.response = some response ∧
        response.RedirectsTo "" "!cellar:hs.one") ∧
      renewed.response.bind (·.location) = some "/room/%21cellar%3Ahs.one" := by
  have hnamed : lastNamed? [named] hall = some ("!hall:hs.one", 0) := by cbv
  have hremembered : lastNamed? [named, remembered] hall = some ("!hall:hs.one", 0) := by cbv
  have hfresh : ¬ Stale [named] remembered.roomAlias remembered.time :=
    fun h => absurd (h _ _ hnamed) (by decide)
  have hstale : Stale [named, remembered] renewed.roomAlias renewed.time := by
    intro room t hlast
    rw [show renewed.roomAlias = hall from rfl, hremembered] at hlast
    cases hlast
    decide
  have hasked : renewed.asked =
      [⟨.resolveAlias renewed.roomAlias, some (.ok { roomId := "!cellar:hs.one" })⟩] := by
    cbv
  have hplace : third.2.1.settings.routePrefix = "" := by cbv
  have hlocation : renewed.response.bind (·.location) = some "/room/%21cellar%3Ahs.one" := by cbv
  have hsecond : [named, remembered, renewed] = [named] ++ remembered :: [renewed] := rfl
  have hthird : [named, remembered, renewed] = [named, remembered] ++ renewed :: [] := rfl
  obtain ⟨-, hwithin, -⟩ := Server.alias_requests resolves hsecond
  obtain ⟨hnothing, response, room, t, hresponse, hlast, hredirects⟩ := hwithin hfresh
  obtain ⟨-, -, hasks, hrenewed, -⟩ := Server.alias_requests resolves hthird
  obtain ⟨response', hresponse', hredirects'⟩ :=
    hrenewed { roomId := "!cellar:hs.one" } hasked (by decide)
  rw [show remembered.roomAlias = hall from rfl, hnamed] at hlast
  cases hlast
  rw [hplace] at hredirects hredirects'
  exact ⟨hnothing, ⟨response, hresponse, hredirects⟩, hasks hstale,
    ⟨response', hresponse', hredirects'⟩, hlocation⟩

end SmallAliases

end RoomReader
