import SheetTemplate.Proofs.Qualified
import SheetTemplate.Proofs.ReferenceTexts

namespace SheetTemplate

open CellRef

def RefToken.ofCell (c : CellRef) : RefToken :=
  ⟨false, columnLetters c.col, false, Number.natDigits (c.row + 1)⟩

namespace RefToken

variable {axis : Axis} {start count : Nat} {c d : CellRef}

theorem toChars_ofCell (c : CellRef) : (ofCell c).toChars = c.toChars := by
  rw [toChars, ofCell, dollar, if_neg Bool.false_ne_true, List.append_nil]
  rfl

theorem spelled_ofCell (h : c.Writable) : (ofCell c).Spelled :=
  ⟨fun _ => isAlpha_of_mem_columnLetters, columnLetters_ne_nil _, h .column,
    fun _ => isDigit_of_mem_natDigits, natDigits_ne_nil _⟩

theorem addressable_of_writable (h : c.Writable) : c.Addressable := by
  have hcol : c.col < columnsWithin 3 := length_columnLetters_le_iff.1 (h .column)
  have hgreatest : columnsWithin 3 ≤ Number.greatestNat64 := by decide
  exact ⟨h .row, by omega⟩

theorem cell?_ofCell (h : c.Writable) : (ofCell c).cell? = some c :=
  CellRef.ofChars?_toChars (addressable_of_writable h)

/-- The token follows an insertion as its cell does. -/
theorem shift_ofCell (axis : Axis) (start count : Nat) (c : CellRef) :
    (ofCell c).shift axis start count c = ofCell (c.shift axis start count) := by
  rw [shift]
  split
  case isTrue h => rw [CellRef.shift_of_lt h]
  case isFalse => rfl

end RefToken

/-- Cells to the left and above of one that can be written can be written. -/
theorem CellRef.Writable.of_le {c d : CellRef} (h : d.Writable)
    (hle : ∀ axis : Axis, axis.coordinate c ≤ axis.coordinate d) : c.Writable := by
  intro axis
  have hd := h axis
  have hcd := hle axis
  cases axis with
  | row => exact Nat.le_trans (Nat.succ_le_succ hcd) hd
  | column =>
    rw [Axis.Writable, length_columnLetters_le_iff] at hd ⊢
    exact Nat.lt_of_le_of_lt hcd hd

namespace Piece

open RefToken

variable {c d : CellRef}

theorem ofText_corner (h : c.Writable) : ofText c.toChars = [reference (ofCell c) c] := by
  have hsplit : split? c.toChars = some (ofCell c, []) := by
    have hspelled : split? ((ofCell c).toChars ++ []) = some (ofCell c, []) :=
      split?_append (spelled_ofCell h) (by simp)
    rwa [List.append_nil, toChars_ofCell] at hspelled
  have hpiece : ofToken none none (ofCell c) = reference (ofCell c) c :=
    ofToken_eq_reference_iff.2 ⟨rfl, by simp, by simp, cell?_ofCell h⟩
  rw [ofText, scan_of_split? hsplit, List.head?_nil, hpiece, scan_nil]

/-- A range is cut into its corners and the colon. -/
theorem ofText_corners (hc : c.Writable) (hd : d.Writable) :
    ofText (c.toChars ++ ':' :: d.toChars) =
      [reference (ofCell c) c, other [':'], reference (ofCell d) d] := by
  have hquotes : c.toChars.count '"' = 0 := by
    rw [← toChars_ofCell]
    exact (spelled_ofCell hc).count_quote
  have hcorner : scan false none (':' :: ((ofCell d).toChars ++ [])) =
      other [':'] :: reference (ofCell d) d :: scan false (ofCell d).digits.getLast? [] :=
    scan_second_corner (spelled_ofCell hd) (cell?_ofCell hd) (by simp)
  rw [List.append_nil, toChars_ofCell, scan_nil] at hcorner
  rw [ofText, scan_append (by decide), hquotes]
  exact congrArg₂ _ (ofText_corner hc) hcorner

end Piece

namespace Area

open Piece RefToken

variable {a : Area}

theorem corners_shift (h : a.WellFormed) (axis : Axis) (start count : Nat) :
    (a.shift axis start count).topLeft = a.topLeft.shift axis start count ∧
      (a.shift axis start count).bottomRight = a.bottomRight.shift axis start count := by
  cases axis with
  | row =>
    simp only [shift, shiftEnds_eq (show a.top ≤ a.bottom from h .row)]
    exact ⟨rfl, rfl⟩
  | column =>
    simp only [shift, shiftEnds_eq (show a.left ≤ a.right from h .column)]
    exact ⟨rfl, rfl⟩

theorem coordinate_topLeft_le (h : a.WellFormed) (axis : Axis) :
    axis.coordinate a.topLeft ≤ axis.coordinate a.bottomRight := by
  cases axis with
  | row => exact h .row
  | column => exact h .column

/-- The text of an area follows an insertion as the area does, and is read as the area that has
followed it. -/
theorem shiftReferences_toText (h : a.WellFormed) (hw : a.bottomRight.Writable) (axis : Axis)
    (start count : Nat) :
    shiftReferences axis start count a.toText = (a.shift axis start count).toText ∧
      ((a.shift axis start count).bottomRight.Addressable →
        ofText? (shiftReferences axis start count a.toText) = some (a.shift axis start count)) := by
  have hfirst : a.topLeft.Writable := hw.of_le (coordinate_topLeft_le h)
  have htext : shiftReferences axis start count a.toText = (a.shift axis start count).toText := by
    obtain ⟨htopLeft, hbottomRight⟩ := corners_shift h axis start count
    rw [← String.toList_inj, toList_shiftReferences, toText, toText, String.toList_ofList,
      String.toList_ofList, toChars, toChars, ofText_corners hfirst hw, htopLeft, hbottomRight,
      ← toChars_ofCell, ← toChars_ofCell, ← shift_ofCell, ← shift_ofCell, movedText_cons,
      movedText_char, movedText_cons]
    exact congrArg _ (congrArg _ (List.append_nil _))
  refine ⟨htext, fun hlast => ?_⟩
  have hwell := h.shift axis start count
  have hle := coordinate_topLeft_le hwell
  rw [htext, ofText?, toText, String.toList_ofList]
  exact ofChars?_toChars hwell
    ⟨Nat.lt_of_le_of_lt (hle .row) hlast.1, Nat.lt_of_le_of_lt (hle .column) hlast.2⟩ hlast

example : shiftReferences .column 1 2 "A1:B4" = "A1:D4" := by cbv

/-- The last column of three letters moves to one of four. -/
theorem shiftReferences_toText_wide :
    (⟨1, 0, 18277, 3⟩ : Area).WellFormed ∧ (⟨3, 18277⟩ : CellRef).Writable ∧
      shiftReferences .column 5 1 (toText ⟨1, 0, 18277, 3⟩) = "B1:AAAA4" ∧
        ofText? (shiftReferences .column 5 1 (toText ⟨1, 0, 18277, 3⟩)) =
          some ⟨1, 0, 18278, 3⟩ := by
  have hwell : (⟨1, 0, 18277, 3⟩ : Area).WellFormed := by
    intro axis
    cases axis <;> decide
  have hw : (⟨3, 18277⟩ : CellRef).Writable := by
    intro axis
    cases axis with
    | row => exact show 3 + 1 ≤ Number.greatestNat64 by decide
    | column => exact length_columnLetters_le_iff.2 (by decide)
  obtain ⟨htext, hread⟩ := shiftReferences_toText hwell hw .column 5 1
  exact ⟨hwell, hw, htext.trans (by cbv), hread ⟨by decide, by decide⟩⟩

end Area

end SheetTemplate
