import RoomReader.Text.Utf8
import Mathlib.Data.List.Basic

namespace RoomReader.Utf8

/-!
# UTF-8 and back

The bytes of a text are those of its characters. Reading them gives the text again, with no
character replaced.
-/

theorem encode_eq_flatMap (s : String) : encode s = s.toList.flatMap String.utf8EncodeChar := by
  rw [encode, String.toUTF8, ← String.utf8Encode_toList, List.utf8Encode]
  exact List.toList_data_toByteArray

theorem encode_append (s t : String) : encode (s ++ t) = encode s ++ encode t := by
  rw [encode_eq_flatMap, encode_eq_flatMap, encode_eq_flatMap, String.toList_append,
    List.flatMap_append]

theorem encode_intercalate (s : String) (parts : List String) :
    encode (s.intercalate parts) = (encode s).intercalate (parts.map encode) := by
  induction parts with
  | nil => rfl
  | cons part rest ih =>
      cases rest with
      | nil => rw [String.intercalate_singleton, List.map_singleton, List.intercalate_singleton]
      | cons next rest =>
          rw [String.intercalate_cons_cons, encode_append, encode_append, ih, List.map_cons,
            List.map_cons, List.map_cons, List.intercalate_cons_cons]

theorem between_iff {b : UInt8} (low high : UInt8) :
    (low ≤ b && b ≤ high) = true ↔ low.toNat ≤ b.toNat ∧ b.toNat ≤ high.toNat := by
  rw [Bool.and_eq_true, decide_eq_true_iff, decide_eq_true_iff, UInt8.le_iff_toNat_le,
    UInt8.le_iff_toNat_le]

section

variable {b : UInt8} {n : Nat}

theorem start_one (hb : b.toNat < 0x80) : start b = ([Char.ofNat b.toNat], none) := by
  have hlt : b < 0x80 := hb
  rw [start, if_pos hlt]

theorem start_two (hb : b.toNat = n + 0xC0) (hn : 2 ≤ n) (hn' : n < 32) :
    start b = ([], some ⟨n, 1, 0x80, 0xBF⟩) := by
  have hsmall : ¬ b < 0x80 := by
    change ¬ b.toNat < 0x80
    omega
  have htwo : (0xC2 ≤ b && b ≤ 0xDF) = true := by
    rw [between_iff]
    change 0xC2 ≤ b.toNat ∧ b.toNat ≤ 0xDF
    omega
  rw [start, if_neg hsmall, if_pos htwo, hb, Nat.add_sub_cancel]

theorem start_three (hb : b.toNat = n + 0xE0) (hn : n < 16) :
    start b = ([], some ⟨n, 2, if n = 0 then 0xA0 else 0x80, if n = 13 then 0x9F else 0xBF⟩) := by
  have hsmall : ¬ b < 0x80 := by
    change ¬ b.toNat < 0x80
    omega
  have htwo : ¬ (0xC2 ≤ b && b ≤ 0xDF) = true := by
    rw [between_iff]
    change ¬ (0xC2 ≤ b.toNat ∧ b.toNat ≤ 0xDF)
    omega
  have hthree : (0xE0 ≤ b && b ≤ 0xEF) = true := by
    rw [between_iff]
    change 0xE0 ≤ b.toNat ∧ b.toNat ≤ 0xEF
    omega
  have hlow : b = 0xE0 ↔ n = 0 := by
    rw [← UInt8.toNat_inj]
    change b.toNat = 0xE0 ↔ _
    omega
  have hhigh : b = 0xED ↔ n = 13 := by
    rw [← UInt8.toNat_inj]
    change b.toNat = 0xED ↔ _
    omega
  rw [start, if_neg hsmall, if_neg htwo, if_pos hthree, hb, Nat.add_sub_cancel]
  simp only [beq_iff_eq, hlow, hhigh]

theorem start_four (hb : b.toNat = n + 0xF0) (hn : n < 5) :
    start b = ([], some ⟨n, 3, if n = 0 then 0x90 else 0x80, if n = 4 then 0x8F else 0xBF⟩) := by
  have hsmall : ¬ b < 0x80 := by
    change ¬ b.toNat < 0x80
    omega
  have htwo : ¬ (0xC2 ≤ b && b ≤ 0xDF) = true := by
    rw [between_iff]
    change ¬ (0xC2 ≤ b.toNat ∧ b.toNat ≤ 0xDF)
    omega
  have hthree : ¬ (0xE0 ≤ b && b ≤ 0xEF) = true := by
    rw [between_iff]
    change ¬ (0xE0 ≤ b.toNat ∧ b.toNat ≤ 0xEF)
    omega
  have hfour : (0xF0 ≤ b && b ≤ 0xF4) = true := by
    rw [between_iff]
    change 0xF0 ≤ b.toNat ∧ b.toNat ≤ 0xF4
    omega
  have hlow : b = 0xF0 ↔ n = 0 := by
    rw [← UInt8.toNat_inj]
    change b.toNat = 0xF0 ↔ _
    omega
  have hhigh : b = 0xF4 ↔ n = 4 := by
    rw [← UInt8.toNat_inj]
    change b.toNat = 0xF4 ↔ _
    omega
  rw [start, if_neg hsmall, if_neg htwo, if_neg hthree, if_pos hfour, hb, Nat.add_sub_cancel]
  simp only [beq_iff_eq, hlow, hhigh]

end

theorem toNat_ofNat {n : Nat} (hn : n < 256) : (UInt8.ofNat n).toNat = n :=
  UInt8.toNat_ofNat_of_lt' hn

theorem toNat_tail (n : Nat) : (UInt8.ofNat (n % 64 + 128)).toNat = n % 64 + 0x80 :=
  toNat_ofNat (by omega)

section

variable {value n : Nat} {low high : UInt8} (rest : Bytes)

theorem decodeFrom_start {b : UInt8} {p : Option Partial} {found : List Char}
    (h : start b = (found, p)) : decodeFrom none (b :: rest) = found ++ decodeFrom p rest := by
  rw [decodeFrom, step, h]

/-- A byte that carries six bits more, after which others are to come. -/
theorem decodeFrom_more (missing : Nat) (hlow : low.toNat ≤ n % 64 + 0x80)
    (hhigh : n % 64 + 0x80 ≤ high.toNat) :
    decodeFrom (some ⟨value, missing + 2, low, high⟩) (UInt8.ofNat (n % 64 + 128) :: rest) =
      decodeFrom (some ⟨value * 64 + n % 64, missing + 1, 0x80, 0xBF⟩) rest := by
  have hbyte := toNat_tail n
  have hbetween : (low ≤ UInt8.ofNat (n % 64 + 128) && UInt8.ofNat (n % 64 + 128) ≤ high) = true := by
    rw [between_iff, hbyte]
    exact ⟨hlow, hhigh⟩
  have hmissing : ¬ missing + 2 ≤ 1 := by omega
  simp only [decodeFrom, step]
  rw [if_pos hbetween, if_neg hmissing, hbyte, Nat.add_sub_cancel, List.nil_append]
  rfl

theorem decodeFrom_last :
    decodeFrom (some ⟨value, 1, 0x80, 0xBF⟩) (UInt8.ofNat (n % 64 + 128) :: rest) =
      Char.ofNat (value * 64 + n % 64) :: decodeFrom none rest := by
  have hbyte := toNat_tail n
  have hbetween : (0x80 ≤ UInt8.ofNat (n % 64 + 128) && UInt8.ofNat (n % 64 + 128) ≤ 0xBF) = true := by
    rw [between_iff, hbyte]
    change 0x80 ≤ _ ∧ _ ≤ 0xBF
    omega
  simp only [decodeFrom, step]
  rw [if_pos hbetween, if_pos (Nat.le_refl 1), hbyte, Nat.add_sub_cancel, List.singleton_append]

end

/-- A character is read back from its bytes, whatever comes after them. -/
theorem decodeFrom_utf8EncodeChar (c : Char) (rest : Bytes) :
    decodeFrom none (String.utf8EncodeChar c ++ rest) = c :: decodeFrom none rest := by
  have hvalid : c.val.toNat < 0xD800 ∨ 0xDFFF < c.val.toNat ∧ c.val.toNat < 0x110000 := c.valid
  have hc : Char.ofNat c.val.toNat = c := Char.ofNat_toNat c
  simp only [String.utf8EncodeChar]
  generalize c.val.toNat = v at *
  split_ifs with hone htwo hthree
  · have hb : (UInt8.ofNat v).toNat = v := toNat_ofNat (by omega)
    have hstart := start_one (b := UInt8.ofNat v) (by omega)
    rw [hb, hc] at hstart
    exact decodeFrom_start rest hstart
  · have hb : (UInt8.ofNat (v / 64 % 32 + 192)).toNat = v / 64 + 0xC0 := by
      rw [toNat_ofNat (by omega)]
      omega
    have hvalue : v / 64 * 64 + v % 64 = v := by omega
    rw [List.cons_append, List.singleton_append,
      decodeFrom_start _ (start_two hb (by omega) (by omega)), List.nil_append, decodeFrom_last,
      hvalue, hc]
  · have hb : (UInt8.ofNat (v / 4096 % 16 + 224)).toNat = v / 4096 + 0xE0 := by
      rw [toNat_ofNat (by omega)]
      omega
    have hvalue : (v / 4096 * 64 + v / 64 % 64) * 64 + v % 64 = v := by omega
    have hlow : (if v / 4096 = 0 then 0xA0 else 0x80 : UInt8).toNat ≤ v / 64 % 64 + 0x80 := by
      split_ifs
      · change 0xA0 ≤ _
        omega
      · change 0x80 ≤ _
        omega
    have hhigh : v / 64 % 64 + 0x80 ≤ (if v / 4096 = 13 then 0x9F else 0xBF : UInt8).toNat := by
      split_ifs
      · change _ ≤ 0x9F
        omega
      · change _ ≤ 0xBF
        omega
    rw [List.cons_append, List.cons_append, List.singleton_append,
      decodeFrom_start _ (start_three hb (by omega)), List.nil_append,
      decodeFrom_more _ 0 hlow hhigh, decodeFrom_last, hvalue, hc]
  · have hb : (UInt8.ofNat (v / 262144 % 8 + 240)).toNat = v / 262144 + 0xF0 := by
      rw [toNat_ofNat (by omega)]
      omega
    have hvalue :
        ((v / 262144 * 64 + v / 4096 % 64) * 64 + v / 64 % 64) * 64 + v % 64 = v := by omega
    have hlow : (if v / 262144 = 0 then 0x90 else 0x80 : UInt8).toNat ≤ v / 4096 % 64 + 0x80 := by
      split_ifs
      · change 0x90 ≤ _
        omega
      · change 0x80 ≤ _
        omega
    have hhigh : v / 4096 % 64 + 0x80 ≤ (if v / 262144 = 4 then 0x8F else 0xBF : UInt8).toNat := by
      split_ifs
      · change _ ≤ 0x8F
        omega
      · change _ ≤ 0xBF
        omega
    have hleast : (0x80 : UInt8).toNat ≤ v / 64 % 64 + 0x80 := Nat.le_add_left ..
    have hmost : v / 64 % 64 + 0x80 ≤ (0xBF : UInt8).toNat := by
      change _ ≤ 0xBF
      omega
    rw [List.cons_append, List.cons_append, List.cons_append, List.singleton_append,
      decodeFrom_start _ (start_four hb (by omega)), List.nil_append,
      decodeFrom_more _ 1 hlow hhigh, decodeFrom_more _ 0 hleast hmost, decodeFrom_last, hvalue, hc]

theorem decodeFrom_flatMap (cs : List Char) :
    decodeFrom none (cs.flatMap String.utf8EncodeChar) = cs := by
  induction cs with
  | nil => rfl
  | cons c cs ih => rw [List.flatMap_cons, decodeFrom_utf8EncodeChar, ih]

/-- In the bytes of a text no character is broken. -/
theorem decodeLossy_encode (s : String) : decodeLossy (encode s) = s := by
  rw [decodeLossy, encode_eq_flatMap, decodeFrom_flatMap, String.ofList_toList]

/-! ## ASCII -/

theorem utf8EncodeChar_of_lt {c : Char} (hc : c.toNat < 0x80) :
    String.utf8EncodeChar c = [UInt8.ofNat c.toNat] := by
  have hone : c.val.toNat ≤ 127 := Nat.le_of_lt_succ hc
  simp only [String.utf8EncodeChar]
  rw [if_pos hone]
  rfl

theorem le_toNat_ofNat {n : Nat} (hn : 0x80 ≤ n) (hn' : n < 256) :
    0x80 ≤ (UInt8.ofNat n).toNat := by
  rwa [toNat_ofNat hn']

/-- Beyond ASCII no byte is an ASCII character. -/
theorem toNat_of_mem_utf8EncodeChar {c : Char} {b : UInt8} (hb : b ∈ String.utf8EncodeChar c) :
    b.toNat = c.toNat ∨ 0x80 ≤ b.toNat := by
  change b.toNat = c.val.toNat ∨ _
  have hvalid : c.val.toNat < 0xD800 ∨ 0xDFFF < c.val.toNat ∧ c.val.toNat < 0x110000 := c.valid
  simp only [String.utf8EncodeChar] at hb
  generalize c.val.toNat = v at *
  split_ifs at hb
  · left
    rw [List.mem_singleton.1 hb, toNat_ofNat (by omega)]
  all_goals
    right
    simp only [List.mem_cons, List.not_mem_nil, or_false] at hb
  · rcases hb with rfl | rfl <;> exact le_toNat_ofNat (by omega) (by omega)
  · rcases hb with rfl | rfl | rfl <;> exact le_toNat_ofNat (by omega) (by omega)
  · rcases hb with rfl | rfl | rfl | rfl <;> exact le_toNat_ofNat (by omega) (by omega)

end RoomReader.Utf8
