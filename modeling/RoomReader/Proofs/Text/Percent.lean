import RoomReader.Proofs.Text.Utf8
import RoomReader.Text.Percent

namespace RoomReader

/-!
# Percent coding and back

A coded byte is read back whatever comes after it, and so is a byte that stands for itself.
-/

theorem forall_byte {p : UInt8 → Prop} (h : ∀ n < 256, p (UInt8.ofNat n)) (b : UInt8) : p b := by
  have hb := h b.toNat b.toNat_lt
  rwa [UInt8.ofNat_toNat] at hb

namespace Ascii

/-- The bytes of a text in ASCII. -/
def bytes (cs : List Char) : Bytes := cs.map fun c => UInt8.ofNat c.toNat

theorem bytes_append (cs ds : List Char) : bytes (cs ++ ds) = bytes cs ++ bytes ds :=
  List.map_append

theorem hexValue?_upperHexDigit {n : Nat} (hn : n < 16) :
    hexValue? (UInt8.ofNat (upperHexDigit n).toNat) = some n := by
  revert n
  decide

end Ascii

theorem Utf8.encode_ofList {cs : List Char} (hcs : ∀ c ∈ cs, c.toNat < 0x80) :
    encode (String.ofList cs) = Ascii.bytes cs := by
  rw [encode_eq_flatMap, String.toList_ofList, Ascii.bytes, List.map_eq_flatMap]
  exact List.flatMap_congr fun c hc => utf8EncodeChar_of_lt (hcs c hc)

namespace Percent

theorem decode_cons_of_ne {b : UInt8} (hb : b ≠ 0x25) (rest : Bytes) :
    decode (b :: rest) = b :: decode rest := by
  rw [decode.eq_def]
  split
  · contradiction
  · rename_i heq
    cases heq
    exact absurd rfl hb
  · rename_i heq
    cases heq
    rfl

theorem decode_encodeByte (b : UInt8) (rest : Bytes) :
    decode (Ascii.bytes (encodeByte b) ++ rest) = b :: decode rest := by
  have hb : b.toNat < 256 := b.toNat_lt
  have hhigh := Ascii.hexValue?_upperHexDigit (n := b.toNat / 16) (by omega)
  have hlow := Ascii.hexValue?_upperHexDigit (n := b.toNat % 16) (by omega)
  have hvalue : b.toNat / 16 * 16 + b.toNat % 16 = b.toNat := by omega
  change decode (0x25 :: UInt8.ofNat (Ascii.upperHexDigit (b.toNat / 16)).toNat ::
    UInt8.ofNat (Ascii.upperHexDigit (b.toNat % 16)).toNat :: rest) = _
  rw [decode, hhigh, hlow]
  change UInt8.ofNat (b.toNat / 16 * 16 + b.toNat % 16) :: decode rest = _
  rw [hvalue, UInt8.ofNat_toNat]

/-! ## Texts coded with a set -/

section

variable {set : EncodeSet}

theorem toNat_plain {b : UInt8} (hb : ¬ 0x80 ≤ b) :
    (Char.ofNat b.toNat).toNat = b.toNat ∧ b.toNat < 0x80 := by
  have hlt : b.toNat < 0x80 := Nat.lt_of_not_le hb
  have hvalid : b.toNat.isValidChar := .inl (by omega)
  have hchar : Char.ofNat b.toNat = Char.ofNatAux b.toNat hvalid := dif_pos hvalid
  exact ⟨congrArg Char.toNat hchar, hlt⟩

/-- A byte is written as itself, or as three characters. -/
theorem encodeBytes_cons (set : EncodeSet) (b : UInt8) (rest : Bytes) :
    (∃ c : Char, c.toNat = b.toNat ∧ b.toNat < 0x80 ∧ set b = false ∧
        encodeBytes set (b :: rest) = c :: encodeBytes set rest) ∨
      (0x80 ≤ b.toNat ∨ set b = true) ∧
        encodeBytes set (b :: rest) = encodeByte b ++ encodeBytes set rest := by
  rw [encodeBytes, List.flatMap_cons]
  split
  · rename_i hb
    rw [Bool.or_eq_true, decide_eq_true_iff] at hb
    exact .inr ⟨hb, rfl⟩
  · rename_i hb
    rw [Bool.or_eq_true, decide_eq_true_iff, not_or, Bool.not_eq_true] at hb
    obtain ⟨hchar, hlt⟩ := toNat_plain hb.1
    exact .inl ⟨_, hchar, hlt, hb.2, rfl⟩

theorem toNat_lt_of_mem_encodeBytes {b : Bytes} {c : Char} (hc : c ∈ encodeBytes set b) :
    c.toNat < 0x80 := by
  have hcoded : ∀ b : UInt8, (encodeByte b).all (·.toNat < 0x80) = true :=
    forall_byte (by decide +kernel)
  induction b with
  | nil => cases hc
  | cons b rest ih =>
      rcases encodeBytes_cons set b rest with ⟨d, hd, hlt, -, h⟩ | ⟨-, h⟩ <;> rw [h] at hc
      · rcases List.mem_cons.1 hc with rfl | hc
        · omega
        · exact ih hc
      · rcases List.mem_append.1 hc with hc | hc
        · exact of_decide_eq_true (List.all_eq_true.1 (hcoded b) c hc)
        · exact ih hc

theorem decode_bytes_encodeBytes (hpercent : set 0x25 = true) (b : Bytes) :
    decode (Ascii.bytes (encodeBytes set b)) = b := by
  induction b with
  | nil => rfl
  | cons b rest ih =>
      rcases encodeBytes_cons set b rest with ⟨c, hc, -, hset, h⟩ | ⟨-, h⟩
      · have hne : b ≠ 0x25 := by
          rintro rfl
          rw [hpercent] at hset
          cases hset
        rw [h, Ascii.bytes, List.map_cons, hc, UInt8.ofNat_toNat, decode_cons_of_ne hne]
        exact congrArg (b :: ·) ih
      · rw [h, Ascii.bytes_append, decode_encodeByte, ih]

theorem decodeText?_encode (hpercent : set 0x25 = true) (s : String) :
    decodeText? (encode set s) = some s := by
  rw [decodeText?, encode, Utf8.encode_ofList fun c hc => toNat_lt_of_mem_encodeBytes hc,
    decode_bytes_encodeBytes hpercent, Utf8.decode?_encode]

/-- A character of the set that no code is written with does not occur. -/
theorem notMem_encode {c : Char} (hset : set (UInt8.ofNat c.toNat) = true)
    (hcode : ∀ b, c ∉ encodeByte b) (s : String) : c ∉ (encode set s).toList := by
  rw [encode, String.toList_ofList]
  generalize Utf8.encode s = b
  induction b with
  | nil => exact List.not_mem_nil
  | cons b rest ih =>
      rcases encodeBytes_cons set b rest with ⟨d, hd, -, hplain, h⟩ | ⟨-, h⟩ <;> rw [h]
      · rw [List.mem_cons, not_or]
        refine ⟨?_, ih⟩
        rintro rfl
        rw [hd, UInt8.ofNat_toNat, hplain] at hset
        cases hset
      · rw [List.mem_append, not_or]
        exact ⟨hcode b, ih⟩

theorem encode_eq_self {s : String}
    (h : ∀ c ∈ s.toList, c.toNat < 0x80 ∧ set (UInt8.ofNat c.toNat) = false) :
    encode set s = s := by
  have hchars (cs : List Char)
      (h : ∀ c ∈ cs, c.toNat < 0x80 ∧ set (UInt8.ofNat c.toNat) = false) :
      encodeBytes set (Ascii.bytes cs) = cs := by
    induction cs with
    | nil => rfl
    | cons c cs ih =>
        obtain ⟨⟨hascii, hset⟩, hrest⟩ := List.forall_mem_cons.1 h
        have hbyte : (UInt8.ofNat c.toNat).toNat = c.toNat :=
          UInt8.toNat_ofNat_of_lt' (Nat.lt_trans hascii (by decide))
        rcases encodeBytes_cons set (UInt8.ofNat c.toNat) (Ascii.bytes cs) with
          ⟨d, hd, -, -, h⟩ | ⟨hcoded, -⟩
        · rw [hbyte] at hd
          refine h.trans ?_
          rw [ih hrest, Char.toNat_inj.1 hd]
        · rw [hbyte, hset] at hcoded
          exact absurd hcoded (by simpa using hascii)
  have hbytes : Utf8.encode s = Ascii.bytes s.toList := by
    rw [← Utf8.encode_ofList fun c hc => (h c hc).1, String.ofList_toList]
  rw [encode, hbytes, hchars _ h, String.ofList_toList]

theorem notMem_encodeByte {c : Char} (hc : "%0123456789ABCDEF".toList.contains c = false)
    (b : UInt8) : c ∉ encodeByte b := by
  have hcoded : ∀ b : UInt8, (encodeByte b).all "%0123456789ABCDEF".toList.contains = true :=
    forall_byte (by decide +kernel)
  intro hmem
  rw [List.all_eq_true.1 (hcoded b) c hmem] at hc
  cases hc

end

end Percent

end RoomReader
