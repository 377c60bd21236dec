import RoomReader.Proofs.Text.Percent
import RoomReader.Text.Form

namespace RoomReader.Form

/-!
# Form coding and back

A coded text is read back by whoever reads forms, and pairs are read back in their order. Whoever
only undoes percent coding reads a plus sign where the text has a space.
-/

/-- The characters that a coded text is written with. -/
def isCoded (c : Char) : Bool :=
  c.toNat < 0x80 && (c.isAlphanum || "*-._+%".toList.contains c)

theorem isCoded_of_mem_encode {s : String} {c : Char} (hc : c ∈ (encode s).toList) :
    isCoded c = true := by
  have hbyte : ∀ b, (encodeByte b).all isCoded = true := forall_byte (by decide +kernel)
  rw [encode, String.toList_ofList] at hc
  obtain ⟨b, -, hc⟩ := List.mem_flatMap.1 hc
  exact List.all_eq_true.1 (hbyte b) c hc

theorem toNat_lt_of_isCoded {c : Char} (hc : isCoded c = true) : c.toNat < 0x80 := by
  rw [isCoded, Bool.and_eq_true, decide_eq_true_iff] at hc
  exact hc.1

theorem not_mem_encode {c : Char} (hc : isCoded c = false) (s : String) : c ∉ (encode s).toList := by
  intro hmem
  rw [isCoded_of_mem_encode hmem] at hc
  cases hc

theorem bytes_encodeByte_of_isPlain : ∀ b, isPlain b = true →
    Ascii.bytes (encodeByte b) = [b] ∧ b ≠ 0x25 ∧ b ≠ 0x2B ∧ b ≠ 0x20 :=
  forall_byte (by decide +kernel)

/-- Read as a path, a coded space is a plus sign. -/
theorem decode_bytes_encodeByte (b : UInt8) (rest : Bytes) :
    Percent.decode (Ascii.bytes (encodeByte b) ++ rest) =
      (if b = 0x20 then 0x2B else b) :: Percent.decode rest := by
  by_cases hspace : b = 0x20
  · subst hspace
    exact Percent.decode_cons_of_ne (by decide) rest
  rw [if_neg hspace]
  by_cases hplain : isPlain b = true
  · obtain ⟨hbytes, hpercent, -⟩ := bytes_encodeByte_of_isPlain b hplain
    rw [hbytes]
    exact Percent.decode_cons_of_ne hpercent rest
  · have hcoded : encodeByte b = Percent.encodeByte b := by
      rw [encodeByte, if_neg (by simpa using hspace), if_neg hplain]
    rw [hcoded, Percent.decode_encodeByte]

/-- A space for a plus sign, which is how forms are read. -/
abbrev unplus (b : UInt8) : UInt8 := if b == 0x2B then 0x20 else b

theorem unplus_bytes_encodeByte : ∀ b,
    (Ascii.bytes (Percent.encodeByte b)).map unplus = Ascii.bytes (Percent.encodeByte b) :=
  forall_byte (by decide +kernel)

theorem decode_unplus_bytes_encodeByte (b : UInt8) (rest : Bytes) :
    Percent.decode ((Ascii.bytes (encodeByte b)).map unplus ++ rest) = b :: Percent.decode rest := by
  by_cases hspace : b = 0x20
  · subst hspace
    exact Percent.decode_cons_of_ne (by decide) rest
  by_cases hplain : isPlain b = true
  · obtain ⟨hbytes, hpercent, hplus, -⟩ := bytes_encodeByte_of_isPlain b hplain
    have hb : unplus b = b := if_neg (by simpa using hplus)
    rw [hbytes, List.map_singleton, hb]
    exact Percent.decode_cons_of_ne hpercent rest
  · have hcoded : encodeByte b = Percent.encodeByte b := by
      rw [encodeByte, if_neg (by simpa using hspace), if_neg hplain]
    rw [hcoded, unplus_bytes_encodeByte, Percent.decode_encodeByte]

theorem encode_encode (s : String) :
    Utf8.encode (encode s) = Ascii.bytes ((Utf8.encode s).flatMap encodeByte) := by
  refine Utf8.encode_ofList fun c hc => toNat_lt_of_isCoded ?_
  exact isCoded_of_mem_encode (s := s) (by rwa [encode, String.toList_ofList])

theorem decode_encode (s : String) : decode (Utf8.encode (encode s)) = s := by
  have hbytes (b : Bytes) : Percent.decode ((Ascii.bytes (b.flatMap encodeByte)).map unplus) = b := by
    induction b with
    | nil => rfl
    | cons x b ih =>
        rw [List.flatMap_cons, Ascii.bytes_append, List.map_append, decode_unplus_bytes_encodeByte, ih]
  rw [decode, encode_encode, hbytes, Utf8.decodeLossy_encode]

/-- The text with plus signs for its spaces. -/
def plusForSpaces (s : String) : String :=
  String.ofList (s.toList.map fun c => if c = ' ' then '+' else c)

theorem plusForSpaces_eq_self_iff {s : String} : plusForSpaces s = s ↔ ' ' ∉ s.toList := by
  rw [plusForSpaces, ← String.toList_inj, String.toList_ofList]
  constructor
  · intro h hspace
    rw [← h, List.mem_map] at hspace
    obtain ⟨c, -, hc⟩ := hspace
    split at hc
    · cases hc
    · contradiction
  · intro h
    refine (List.map_congr_left fun c hc => if_neg ?_).trans (List.map_id _)
    rintro rfl
    exact h hc

theorem map_utf8EncodeChar (c : Char) :
    (String.utf8EncodeChar c).map (fun b => if b = 0x20 then 0x2B else b) =
      String.utf8EncodeChar (if c = ' ' then '+' else c) := by
  by_cases hc : c = ' '
  · subst hc
    decide
  · rw [if_neg hc]
    refine (List.map_congr_left fun b hb => if_neg ?_).trans (List.map_id _)
    rintro rfl
    rcases Utf8.toNat_of_mem_utf8EncodeChar hb with heq | hlarge
    · exact hc (Char.ext (UInt32.toNat_inj.1 heq.symm))
    · exact absurd hlarge (by decide)

theorem decodeText?_encode (s : String) :
    Percent.decodeText? (encode s) = some (plusForSpaces s) := by
  have hbytes (b : Bytes) : Percent.decode (Ascii.bytes (b.flatMap encodeByte)) =
      b.map fun b => if b = 0x20 then 0x2B else b := by
    induction b with
    | nil => rfl
    | cons x b ih =>
        rw [List.flatMap_cons, Ascii.bytes_append, decode_bytes_encodeByte, ih, List.map_cons]
  have hchars : (Utf8.encode s).map (fun b => if b = 0x20 then 0x2B else b) =
      Utf8.encode (plusForSpaces s) := by
    rw [Utf8.encode_eq_flatMap, Utf8.encode_eq_flatMap, plusForSpaces, String.toList_ofList,
      List.map_flatMap, List.flatMap_map]
    exact List.flatMap_congr fun c _ => map_utf8EncodeChar c
  rw [Percent.decodeText?, encode_encode, hbytes, hchars, Utf8.decode?_encode]

theorem not_mem_encode_encode {b : UInt8} (hb : b = 0x26 ∨ b = 0x3D) (s : String) :
    b ∉ Utf8.encode (encode s) := by
  have hbyte : ∀ x, (0x26 : UInt8) ∉ Ascii.bytes (encodeByte x) ∧
      (0x3D : UInt8) ∉ Ascii.bytes (encodeByte x) := forall_byte (by decide +kernel)
  rw [encode_encode, Ascii.bytes, List.map_flatMap]
  intro hmem
  obtain ⟨x, -, hx⟩ := List.mem_flatMap.1 hmem
  rcases hb with rfl | rfl
  · exact (hbyte x).1 hx
  · exact (hbyte x).2 hx

theorem encode_encodePair (name value : String) :
    Utf8.encode (encodePair name value) =
      Utf8.encode (encode name) ++ 0x3D :: Utf8.encode (encode value) := by
  rw [encodePair, Utf8.encode_append, Utf8.encode_append, List.append_assoc]
  rfl

theorem splitPair_encodePair (name value : String) :
    splitPair (Utf8.encode (encodePair name value)) =
      (Utf8.encode (encode name), Utf8.encode (encode value)) := by
  have hname : ∀ b ∈ Utf8.encode (encode name), (b != 0x3D) = true := by
    intro b hb
    rw [bne_iff_ne]
    rintro rfl
    exact not_mem_encode_encode (.inr rfl) name hb
  rw [encode_encodePair, splitPair, List.takeWhile_append_of_pos hname,
    List.dropWhile_append_of_pos hname]
  simp

/-- Pairs are read back in their order. -/
theorem decodePairs_encodePairs (pairs : List (String × String)) :
    decodePairs (Utf8.encode (encodePairs pairs)) = pairs := by
  have hparts : ∀ part ∈ pairs.map fun p => Utf8.encode (encodePair p.1 p.2),
      (0x26 : UInt8) ∉ part ∧ (! part.isEmpty) = true := by
    intro part hpart
    obtain ⟨p, -, rfl⟩ := List.mem_map.1 hpart
    rw [encode_encodePair]
    refine ⟨?_, by simp⟩
    simp [not_mem_encode_encode]
  rw [decodePairs, encodePairs, Utf8.encode_intercalate, List.map_map]
  cases pairs with
  | nil => rfl
  | cons p rest =>
      have hamp : Utf8.encode "&" = [0x26] := rfl
      rw [hamp]
      change List.map _ (List.filter _ (splitAtEach 0x26 ([0x26].intercalate
        ((p :: rest).map fun p => Utf8.encode (encodePair p.1 p.2))))) = _
      rw [splitAtEach_intercalate (by simp) fun part hpart => (hparts part hpart).1,
        List.filter_eq_self.2 fun part hpart => (hparts part hpart).2, List.map_map]
      refine (List.map_congr_left fun q _ => ?_).trans (List.map_id _)
      simp only [Function.comp_apply, splitPair_encodePair, decode_encode, id_eq]

end RoomReader.Form
