import SheetTemplate.Package.Bytes
import SheetTemplate.Xml.Attribute

namespace SheetTemplate.Xml

def utf8 (s : List Char) : Bytes := s.flatMap String.utf8EncodeChar

theorem toList_toUTF8 (s : String) : Package.toList s.toUTF8 = utf8 s.toList := by
  have h : s.toByteArray = s.toList.utf8Encode := by
    rw [← String.toByteArray_ofList, String.ofList_toList]
  rw [String.toUTF8_eq_toByteArray, h]
  simp [Package.toList, utf8, List.utf8Encode]

theorem utf8_append (s t : List Char) : utf8 (s ++ t) = utf8 s ++ utf8 t := List.flatMap_append

theorem utf8_cons (c : Char) (s : List Char) : utf8 (c :: s) = String.utf8EncodeChar c ++ utf8 s :=
  List.flatMap_cons

theorem utf8EncodeChar_of_lt {c : Char} (h : c.toNat < 128) : String.utf8EncodeChar c = [byte c] := by
  have hval : c.val.toNat ≤ 127 := Nat.le_of_lt_succ h
  rw [String.utf8EncodeChar, if_pos hval]
  rfl

/-- The bytes of a character beyond ASCII are all beyond ASCII. -/
theorem le_of_mem_utf8EncodeChar {c : Char} (h : 128 ≤ c.toNat) :
    ∀ b ∈ String.utf8EncodeChar c, 128 ≤ b.toNat := by
  have hval : ¬c.val.toNat ≤ 127 := Nat.not_le.2 h
  rw [String.utf8EncodeChar, if_neg hval]
  split
  · simp only [List.mem_cons, List.not_mem_nil, or_false, forall_eq_or_imp, forall_eq,
      UInt8.toNat_ofNat']
    omega
  · split
    all_goals
      simp only [List.mem_cons, List.not_mem_nil, or_false, forall_eq_or_imp, forall_eq,
        UInt8.toNat_ofNat']
      omega

theorem decode?_utf8 (s : List Char) : decode? (utf8 s) = some (String.ofList s) := by
  have hbytes : (⟨(utf8 s).toArray⟩ : ByteArray) = s.utf8Encode := by
    apply ByteArray.ext
    rw [List.utf8Encode, List.data_toByteArray]
    rfl
  unfold decode? String.fromUTF8?
  rw [hbytes, dif_pos ByteArray.isValidUTF8_utf8Encode]
  rfl

theorem utf8_inj {s t : List Char} (h : utf8 s = utf8 t) : s = t := by
  have hdecode := congrArg decode? h
  rw [decode?_utf8, decode?_utf8] at hdecode
  simpa using congrArg (Option.map String.toList) hdecode

theorem byte_toNat {c : Char} (h : c.toNat < 128) : (byte c).toNat = c.toNat := by
  rw [byte, UInt8.toNat_ofNat']
  omega

/-- A character of ASCII is found in the bytes exactly if it is in the text. -/
theorem byte_mem_utf8_iff {c : Char} (h : c.toNat < 128) {s : List Char} :
    byte c ∈ utf8 s ↔ c ∈ s := by
  rw [utf8, List.mem_flatMap]
  constructor
  · rintro ⟨x, hx, hmem⟩
    by_cases hascii : x.toNat < 128
    · rw [utf8EncodeChar_of_lt hascii, List.mem_singleton] at hmem
      have htoNat := congrArg UInt8.toNat hmem
      rw [byte_toNat h, byte_toNat hascii] at htoNat
      rwa [Char.toNat_inj.1 htoNat]
    · have hle := le_of_mem_utf8EncodeChar (Nat.not_lt.1 hascii) _ hmem
      rw [byte_toNat h] at hle
      exact absurd h (Nat.not_lt.2 hle)
  · intro hmem
    exact ⟨c, hmem, by rw [utf8EncodeChar_of_lt h]; exact List.mem_singleton_self _⟩

theorem utf8_eq_map_byte {s : List Char} (h : ∀ c ∈ s, c.toNat < 128) : utf8 s = s.map byte := by
  induction s with
  | nil => rfl
  | cons c s ih =>
    rw [List.forall_mem_cons] at h
    rw [utf8_cons, utf8EncodeChar_of_lt h.1, ih h.2]
    rfl

theorem plainText_utf8 {s : List Char} (h : ∀ c ∈ s, c.toNat < 128) :
    plainText (utf8 s) = String.ofList s := by
  rw [utf8_eq_map_byte h, plainText, List.map_map]
  congr 1
  refine (List.map_congr_left fun c hc => ?_).trans (List.map_id s)
  change Char.ofNat (byte c).toNat = c
  rw [byte_toNat (h c hc), Char.ofNat_toNat]

end SheetTemplate.Xml
