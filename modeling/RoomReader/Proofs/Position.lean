import RoomReader.Homeserver.Log

namespace RoomReader

/-!
# Tokens of positions

Different positions have different tokens, and a position that is a count is read back from its
token.
-/

theorem Integer.natOfDigits?_toDigits (n : Nat) :
    natOfDigits? (Nat.toDigits 10 n) = some n := by
  have hdigits : (Nat.toDigits 10 n).all Char.isDigit = true := by
    rw [List.all_eq_true]
    intro c hc
    exact Nat.isDigit_of_mem_toDigits (by decide) (by decide) hc
  have hvalue : (Nat.toDigits 10 n).foldl (fun n c => n * 10 + (c.toNat - '0'.toNat)) 0 = n := by
    have h := Nat.ofDigitChars_ten_toDigits (n := n)
    rw [Nat.ofDigitChars_eq_foldl] at h
    simpa only [Nat.mul_comm] using h
  simp only [natOfDigits?, List.isEmpty_eq_false_iff.2 Nat.toDigits_ne_nil, hdigits, Bool.not_true,
    Bool.or_self, Bool.false_eq_true, if_false, hvalue]

theorem Integer.count?_toString {n : Nat} (h : n ≤ Count.limit) : count? (toString n) = some n := by
  have hplus : dropPlus (Nat.toDigits 10 n) = Nat.toDigits 10 n := by
    cases hd : Nat.toDigits 10 n with
    | nil => rfl
    | cons c rest =>
        have hc : c.isDigit :=
          Nat.isDigit_of_mem_toDigits (n := n) (b := 10) (by decide) (by decide) (by simp [hd])
        unfold dropPlus
        split
        · cases ‹c :: rest = _›
          exact absurd hc (by decide)
        · rfl
  rw [count?, Nat.toString_eq_repr, Nat.toList_repr, hplus, natOfDigits?_toDigits]
  simp [h]

namespace Position

theorem token_injective {m n : Nat} (h : token m = token n) : m = n := by
  have hdigits : Nat.toDigits 10 m = Nat.toDigits 10 n := by
    have hlists := congrArg String.toList h
    simpa [token, Nat.toString_eq_repr] using hlists
  calc
    m = Nat.ofDigitChars 10 (Nat.toDigits 10 m) 0 := Nat.ofDigitChars_ten_toDigits.symm
    _ = Nat.ofDigitChars 10 (Nat.toDigits 10 n) 0 := by rw [hdigits]
    _ = n := Nat.ofDigitChars_ten_toDigits

@[simp] theorem token_inj {m n : Nat} : token m = token n ↔ m = n :=
  ⟨token_injective, congrArg token⟩

theorem ofToken_token {n : Nat} (h : n ≤ Count.limit) : ofToken (token n) = n := by
  have htoken : (token n).toList = 't' :: (toString n).toList := by
    simp [token]
  rw [ofToken, htoken]
  simp only [String.ofList_toList, Integer.count?_toString h, Option.getD_some]

end Position

end RoomReader
