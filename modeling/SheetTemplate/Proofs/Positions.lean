import SheetTemplate.Proofs.ReferenceTexts
import SheetTemplate.Proofs.TextBytes
import SheetTemplate.Xlsx.Cells

namespace SheetTemplate.Xlsx

open Xml Number

theorem foldl_cons_eq (base : Nat) (value : Char → Nat) (c : Char) (s : List Char) :
    (c :: s).foldl (fun n c => base * n + value c) 0 =
      value c * base ^ s.length + s.foldl (fun n c => base * n + value c) 0 := by
  rw [foldl_eq_ofDigits, foldl_eq_ofDigits, List.reverse_cons, List.map_append, Nat.ofDigits_append,
    List.length_map, List.length_reverse, List.map_singleton, Nat.ofDigits_singleton, Nat.mul_comm,
    Nat.add_comm]

theorem wrap32_run (a b c : Nat) : wrap32 (wrap32 a + b * wrap32 c) = wrap32 (b * c + a) := by
  unfold wrap32
  rw [Nat.add_mod, Nat.mod_mod, Nat.mul_mod, Nat.mod_mod, ← Nat.mul_mod, ← Nat.add_mod, Nat.add_comm]

theorem wrap32_mul (a b : Nat) : wrap32 (wrap32 a * b) = wrap32 (a * b) := by
  unfold wrap32
  rw [Nat.mul_mod, Nat.mod_mod, ← Nat.mul_mod]

theorem step_byte {c : Char} (h : c.toNat < 128) (s : PositionState) :
    s.step (byte c) =
      if c.isDigit then
        if s.inRow then
          some
            { s with
              row := wrap32 (s.row + digitValue c * s.weight)
              weight := wrap32 (s.weight * 10) }
        else none
      else if c.isAlpha then
        if s.inRow && s.row = 0 then none
        else
          let weight := if s.inRow then 1 else s.weight
          some
            { s with
              col := wrap32 (s.col + CellRef.letterValue c * weight)
              weight := wrap32 (weight * 26)
              inRow := false }
      else none := by
  have hchar : Char.ofNat (byte c).toNat = c := by rw [byte_toNat h, Char.ofNat_toNat]
  unfold PositionState.step
  rw [hchar]
  rfl

theorem toNat_lt_of_isDigit {c : Char} (h : c.isDigit) : c.toNat < 128 := by
  have := isDigit_iff.1 h
  omega

theorem toNat_lt_of_isAlpha {c : Char} (h : c.isAlpha) : c.toNat < 128 := by
  have := isAlpha_iff.1 h
  omega

/-- Reading digits from the right. -/
theorem foldlM_digits {s : List Char} (h : ∀ c ∈ s, c.isDigit) :
    (s.map byte).reverse.foldlM PositionState.step {} =
      some { row := wrap32 (digitsValue s), col := 0, weight := wrap32 (10 ^ s.length) } := by
  induction s with
  | nil => rfl
  | cons c s ih =>
    rw [List.forall_mem_cons] at h
    have hvalue : digitsValue (c :: s) = digitValue c * 10 ^ s.length + digitsValue s :=
      foldl_cons_eq 10 digitValue c s
    rw [List.map_cons, List.reverse_cons, List.foldlM_append, ih h.2]
    change ([byte c]).foldlM PositionState.step _ = _
    rw [List.foldlM_cons, step_byte (toNat_lt_of_isDigit h.1), if_pos h.1]
    simp only [if_true]
    rw [wrap32_run, wrap32_mul, hvalue, List.length_cons, pow_succ]
    rfl

/-- Reading letters from the right, once the row is read. -/
theorem foldlM_letters {s : List Char} (h : ∀ c ∈ s, c.isAlpha) (hs : s ≠ []) {row weight : Nat}
    (hrow : row ≠ 0) :
    (s.map byte).reverse.foldlM PositionState.step ⟨row, 0, weight, true⟩ =
      some ⟨row, wrap32 (CellRef.lettersValue s), wrap32 (26 ^ s.length), false⟩ := by
  induction s with
  | nil => exact absurd rfl hs
  | cons c s ih =>
    rw [List.forall_mem_cons] at h
    have hdigit : ¬ c.isDigit := fun hc => not_isAlpha_of_isDigit c hc h.1
    have hvalue : CellRef.lettersValue (c :: s) =
        CellRef.letterValue c * 26 ^ s.length + CellRef.lettersValue s :=
      foldl_cons_eq 26 CellRef.letterValue c s
    rw [List.map_cons, List.reverse_cons, List.foldlM_append, hvalue, List.length_cons, pow_succ]
    cases s with
    | nil =>
      change ([byte c]).foldlM PositionState.step _ = _
      rw [List.foldlM_cons, step_byte (toNat_lt_of_isAlpha h.1), if_neg hdigit, if_pos h.1]
      simp [hrow, CellRef.lettersValue]
    | cons d s =>
      rw [ih h.2 (List.cons_ne_nil _ _)]
      change ([byte c]).foldlM PositionState.step _ = _
      rw [List.foldlM_cons, step_byte (toNat_lt_of_isAlpha h.1), if_neg hdigit, if_pos h.1]
      simp only [Bool.false_and, Bool.false_eq_true, if_false]
      rw [wrap32_run, wrap32_mul]
      rfl

def Small (c : CellRef) : Prop := c.row + 1 < 0x100000000 ∧ c.col + 1 < 0x100000000

theorem wrap32_of_lt {n : Nat} (h : n < 0x100000000) : wrap32 n = n := Nat.mod_eq_of_lt h

theorem position?_digits {n : Nat} (h : n + 1 < 0x100000000) :
    position? ((natDigits (n + 1)).map byte) = some (n, none) := by
  unfold position?
  rw [foldlM_digits fun c hc => isDigit_of_mem_natDigits hc, digitsValue_natDigits, wrap32_of_lt h]
  rfl

theorem cellPosition?_toChars {c : CellRef} (h : Small c) :
    cellPosition? (c.toChars.map byte) = some c := by
  have hposition : position? (c.toChars.map byte) = some (c.row, some c.col) := by
    unfold position? CellRef.toChars
    rw [List.map_append, List.reverse_append, List.foldlM_append,
      foldlM_digits fun c hc => isDigit_of_mem_natDigits hc, digitsValue_natDigits,
      wrap32_of_lt h.1]
    change (((CellRef.columnLetters c.col).map byte).reverse.foldlM PositionState.step
      ⟨c.row + 1, 0, _, true⟩).bind _ = _
    rw [foldlM_letters (fun c hc => CellRef.isAlpha_of_mem_columnLetters hc)
      (CellRef.columnLetters_ne_nil _) (Nat.succ_ne_zero _), CellRef.lettersValue_columnLetters,
      wrap32_of_lt h.2]
    rfl
  rw [cellPosition?, hposition]

theorem toNat_lt_of_mem_toChars {c : CellRef} {x : Char} (h : x ∈ c.toChars) :
    x.toNat < 128 ∧ x ≠ ':' := by
  have hx : x.isAlpha ∨ x.isDigit := by
    rcases List.mem_append.1 h with h | h
    · exact .inl (CellRef.isAlpha_of_mem_columnLetters h)
    · exact .inr (isDigit_of_mem_natDigits h)
  constructor
  · exact hx.elim toNat_lt_of_isAlpha toNat_lt_of_isDigit
  · rintro rfl
    revert hx
    decide

theorem utf8_toChars (c : CellRef) : utf8 c.toChars = c.toChars.map byte :=
  utf8_eq_map_byte fun _ hx => (toNat_lt_of_mem_toChars hx).1

theorem utf8_natDigits (n : Nat) : utf8 (natDigits n) = (natDigits n).map byte :=
  utf8_eq_map_byte fun _ hx => toNat_lt_of_isDigit (isDigit_of_mem_natDigits hx)

theorem dimension?_toChars {a : Area} (h : Small a.topLeft) (h' : Small a.bottomRight) :
    dimension? (utf8 a.toChars) = some (a.topLeft, a.bottomRight) := by
  have hcolon (c : CellRef) : byte ':' ∉ c.toChars.map byte := by
    rw [← utf8_toChars, byte_mem_utf8_iff (by decide)]
    exact fun hmem => (toNat_lt_of_mem_toChars hmem).2 rfl
  have hbytes : utf8 a.toChars =
      a.topLeft.toChars.map byte ++ byte ':' :: a.bottomRight.toChars.map byte := by
    rw [Area.toChars, utf8_append, utf8_cons, utf8_toChars, utf8_toChars]
    rfl
  unfold dimension? splitColon
  rw [hbytes, List.splitOn_append_cons_self_of_not_mem (hcolon _),
    List.splitOn_eq_singleton (hcolon _)]
  simp only [List.mapM_cons, List.mapM_nil, cellPosition?_toChars h, cellPosition?_toChars h']
  rfl

end SheetTemplate.Xlsx
