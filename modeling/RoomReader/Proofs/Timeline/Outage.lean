import RoomReader.Proofs.Timeline.Fetch
import RoomReader.Proofs.Tracking

namespace RoomReader.Timeline

/-!
# Reading while calls fail

Every call for older events asks from the old token as the answers so far have left it. If one fails
the timeline stays as it is. Without its anchor a page then comes to an error, and with it to what
is held.
-/

/-- Takes in an answer with older events. -/
def absorb (t : Timeline) : Answered → Timeline
  | ⟨.messages _ _ .backward _, .ok m⟩ => t.extendBack m
  | _ => t

def reading (room : String) : Guide Timeline where
  take := absorb
  asks t c := ∃ limit, minimumPagination ≤ limit ∧ c = .messages room t.backToken .backward limit

/-- What a page comes to if a call for it fails while `u` is held: to an error if the anchor is
still looked for, and to a page of what is held if it was found. -/
def Interrupted (t : Timeline) (room anchor : String) (offset : Int) (pageSize : Nat)
    (u : Timeline) (e : ApiError) (r : Except RoomError EventPage) : Prop :=
  (u = t ∧ (∀ a, ¬ u.IndexOf anchor a) ∧ r = .error (.ofApi room e)) ∨
    ∃ a, u.IndexOf anchor a ∧ 0 ≤ offset ∧ r = .ok (u.window a offset pageSize)

variable (t : Timeline) (room anchor : String)

theorem tracks_backpaginate (amount : Nat) :
    (t.backpaginate room amount).Tracks (reading room)
      (fun u e x => u = t ∧ x = .done (.error e, t)) (fun u p => p.2 = u) t := by
  refine .ask ⟨_, Nat.le_max_right _ _, rfl⟩ (fun e => ⟨rfl, rfl⟩) fun answer => ?_
  cases answer <;> exact .done rfl

theorem tracks_findAnchor :
    (t.findAnchor room anchor).Tracks (reading room)
      (fun u e x => u = t ∧ t.position? anchor = none ∧ x = .done (.error e, t))
      (fun u p => p.2 = u ∧ ∀ i, p.1 = .ok (some i) → u.position? anchor = some i) t := by
  unfold findAnchor
  split
  · rename_i i hi
    refine .done ⟨rfl, ?_⟩
    rintro _ ⟨⟩
    exact hi
  · rename_i hposition
    split
    · exact .done ⟨rfl, nofun⟩
    · refine (t.tracks_backpaginate room anchorBackfill).bind ?_ ?_
      · rintro _ e _ ⟨rfl, rfl⟩
        exact ⟨rfl, hposition, rfl⟩
      · rintro u ⟨e | received, _⟩ rfl
        · exact .done ⟨rfl, nofun⟩
        · refine .done ⟨rfl, fun i hi => ?_⟩
          have hfound := Except.ok.inj hi
          split at hfound
          · exact hfound
          · cases hfound

theorem tracks_anchorIndex :
    (t.anchorIndex room anchor).Tracks (reading room)
      (fun u e x => u = t ∧ (∀ a, ¬ t.IndexOf anchor a) ∧ x = .done (.error (.ofApi room e), t))
      (fun u p => p.2 = u ∧ ∀ a, p.1 = .ok a → u.IndexOf anchor a) t := by
  unfold anchorIndex
  split
  · rename_i hempty
    refine .done ⟨rfl, ?_⟩
    rintro _ ⟨⟩
    exact .inl ⟨String.isEmpty_iff.1 hempty, rfl⟩
  · rename_i hne
    have hanchor : anchor ≠ "" := fun hnil => hne (String.isEmpty_iff.2 hnil)
    refine (t.tracks_findAnchor room anchor).bind ?_ ?_
    · rintro _ e _ ⟨rfl, hposition, rfl⟩
      refine ⟨rfl, ?_, rfl⟩
      rintro a (⟨hnil, -⟩ | ⟨-, ha⟩)
      · exact hanchor hnil
      · rw [hposition] at ha
        cases ha
    · rintro u ⟨e | _ | i, _⟩ ⟨rfl, hfound⟩
      · exact .done ⟨rfl, nofun⟩
      · exact .done ⟨rfl, nofun⟩
      · refine .done ⟨rfl, ?_⟩
        rintro _ ⟨⟩
        exact .inr ⟨hanchor, hfound i rfl⟩

theorem tracks_reach (wanted : Nat) :
    (t.reach room wanted).Tracks (reading room) (fun u _ x => u = t ∧ x = .done t)
      (fun u t' => t' = u) t := by
  unfold reach
  split
  · refine (t.tracks_backpaginate room (wanted - t.length)).bind ?_ fun u p hp => .done hp
    rintro _ e _ ⟨rfl, rfl⟩
    exact ⟨rfl, rfl⟩
  · exact .done rfl

theorem tracks_getPage (offset : Int) (pageSize : Nat) :
    (t.getPage room anchor offset pageSize).Tracks (reading room)
      (fun u e x => ∃ r, t.Interrupted room anchor offset pageSize u e r ∧ x = .done (r, u))
      (fun u p => p.2 = u) t := by
  unfold getPage
  refine (t.tracks_anchorIndex room anchor).bind ?_ ?_
  · rintro _ e _ ⟨rfl, hanchor, rfl⟩
    exact ⟨_, .inl ⟨rfl, hanchor, rfl⟩, rfl⟩
  · rintro u ⟨e | index, _⟩ ⟨rfl, hindex⟩
    · exact .done rfl
    · dsimp only
      split
      · rename_i hoffset
        refine (tracks_reach _ room _).bind ?_ fun v t' ht' => .done ht'
        rintro _ e _ ⟨rfl, rfl⟩
        refine ⟨_, .inr ⟨index, hindex index rfl, hoffset, rfl⟩, ?_⟩
        rw [window, if_pos hoffset]
        rfl
      · exact .done rfl

end RoomReader.Timeline
