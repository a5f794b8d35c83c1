import SheetTemplate.Proofs.Occurrences

namespace SheetTemplate

namespace CellRef

def Grows (f : CellRef → CellRef) : Prop :=
  ∀ (c : CellRef) (axis : Axis), axis.coordinate c ≤ axis.coordinate (f c)

theorem grows_id : Grows id := fun _ _ => Nat.le_refl _

theorem Grows.comp {f g : CellRef → CellRef} (hg : Grows g) (hf : Grows f) : Grows (g ∘ f) :=
  fun c axis => Nat.le_trans (hf c axis) (hg (f c) axis)

theorem coordinate_le_shift (axis : Axis) (start count : Nat) (c : CellRef) (axis' : Axis) :
    axis'.coordinate c ≤ axis'.coordinate (c.shift axis start count) := by
  by_cases haxis : axis' = axis
  · subst haxis
    rw [coordinate_shift, shiftIndex]
    split <;> omega
  · obtain rfl := Axis.eq_other_of_ne haxis
    rw [coordinate_other_shift]

theorem grows_shift (axis : Axis) (start count : Nat) : Grows (shift axis start count) :=
  fun c axis' => coordinate_le_shift axis start count c axis'

/-- A cell that comes back to its place has never left it. -/
theorem Grows.eq_of_comp_eq {f g : CellRef → CellRef} (hg : Grows g) (hf : Grows f) {c : CellRef}
    (h : g (f c) = c) : f c = c := by
  have hle (axis : Axis) : axis.coordinate (f c) = axis.coordinate c := by
    have hback := hg (f c) axis
    rw [h] at hback
    exact Nat.le_antisymm hback (hf c axis)
  exact Axis.ext_coordinate .row (hle .row) (hle .column)

theorem shift_eq_self_iff {axis : Axis} {start count : Nat} (hcount : count ≠ 0) {c : CellRef} :
    c.shift axis start count = c ↔ axis.coordinate c < start := by
  constructor
  · intro h
    have hcoordinate := coordinate_shift axis start count c
    rw [h] at hcoordinate
    by_contra hmoves
    rw [shiftIndex_of_le (Nat.le_of_not_lt hmoves)] at hcoordinate
    omega
  · exact shift_of_lt

theorem writable_iff {c : CellRef} :
    c.Writable ↔ c.row < Number.greatestNat64 ∧ c.col < columnsWithin 3 := by
  constructor
  · intro h
    exact ⟨h .row, length_columnLetters_le_iff.1 (h .column)⟩
  · rintro ⟨hrow, hcol⟩ axis
    cases axis with
    | row => exact hrow
    | column => exact length_columnLetters_le_iff.2 hcol

instance : DecidablePred Writable := fun _ => decidable_of_iff _ writable_iff.symm

/-- What lies before a place that can be written can be written itself. -/
theorem Grows.writable {f : CellRef → CellRef} (hf : Grows f) {c : CellRef}
    (h : (f c).Writable) : c.Writable := by
  rw [writable_iff] at h ⊢
  exact ⟨Nat.lt_of_le_of_lt (hf c .row) h.1, Nat.lt_of_le_of_lt (hf c .column) h.2⟩

end CellRef

def RefToken.respell (t : RefToken) (c : CellRef) : RefToken :=
  { t with letters := CellRef.columnLetters c.col, digits := Number.natDigits (c.row + 1) }

namespace Piece

open CellRef

variable {axis : Axis} {start count : Nat} {f g : CellRef → CellRef} {formula : String}

/-- The piece after every cell is sent along `f`. If its cell stays, a reference keeps its spelling. -/
def relocate (f : CellRef → CellRef) : Piece → Piece
  | reference t c => reference (if f c = c then t else t.respell (f c)) (f c)
  | other s => other s

theorem relocate_id : relocate id = id := by
  funext p
  cases p with
  | reference t c => exact congrArg (reference · c) (if_pos rfl)
  | other s => rfl

theorem relocate_comp (hg : Grows g) (hf : Grows f) :
    relocate g ∘ relocate f = relocate (g ∘ f) := by
  funext p
  cases p with
  | other s => rfl
  | reference t c =>
    simp only [Function.comp_apply, relocate, reference.injEq, and_true]
    by_cases hstays : g (f c) = c
    · have hfirst := hg.eq_of_comp_eq hf hstays
      rw [if_pos hstays, if_pos hfirst, if_pos (hstays.trans hfirst.symm)]
    · rw [if_neg hstays]
      by_cases hfirst : f c = c
      · rw [hfirst] at hstays ⊢
        rw [if_neg hstays, if_pos rfl]
      · rw [if_neg hfirst]
        split
        · rename_i hlast
          rw [hlast]
        · rfl

theorem shift_eq_relocate (hcount : count ≠ 0) :
    shift axis start count = relocate (CellRef.shift axis start count) := by
  funext p
  cases p with
  | other s => rfl
  | reference t c =>
    simp only [shift, relocate, RefToken.shift, shift_eq_self_iff hcount]
    rfl

def relocateReferences (f : CellRef → CellRef) (formula : String) : String :=
  String.ofList (text ((ofText formula.toList).map (relocate f)))

theorem relocateReferences_id (formula : String) : relocateReferences id formula = formula := by
  rw [relocateReferences, relocate_id, List.map_id, text_ofText, String.ofList_toList]

def Rereads (f : CellRef → CellRef) (formula : String) : Prop :=
  ofText (relocateReferences f formula).toList = (ofText formula.toList).map (relocate f)

theorem rereads_id (formula : String) : Rereads id formula := by
  rw [Rereads, relocateReferences_id, relocate_id, List.map_id]

theorem Rereads.map_shift (h : Rereads f formula) (hf : Grows f) (hcount : count ≠ 0) :
    (ofText (relocateReferences f formula).toList).map (Piece.shift axis start count) =
      (ofText formula.toList).map (relocate (CellRef.shift axis start count ∘ f)) := by
  rw [h, List.map_map, shift_eq_relocate hcount, relocate_comp (grows_shift axis start count) hf]

/-- One more insertion goes on from the map that the earlier ones make up. -/
theorem Rereads.shiftReferences_eq (h : Rereads f formula) (hf : Grows f) (hcount : count ≠ 0) :
    shiftReferences axis start count (relocateReferences f formula) =
      relocateReferences (CellRef.shift axis start count ∘ f) formula := by
  rw [shiftReferences, h.map_shift hf hcount]
  rfl

theorem Rereads.shift (h : Rereads f formula) (hf : Grows f) (hcount : count ≠ 0)
    (hw : ∀ t c, reference t c ∈ ofText formula.toList →
      ((f c).shift axis start count).Writable) :
    Rereads (CellRef.shift axis start count ∘ f) formula := by
  have hmovable : Movable axis start count (ofText (relocateReferences f formula).toList) := by
    intro t c hmem hmoves
    rw [h] at hmem
    obtain ⟨p, hp, hpiece⟩ := List.mem_map.1 hmem
    cases p with
    | other s => cases hpiece
    | reference u d =>
      obtain ⟨-, rfl⟩ := reference.inj hpiece
      have hcoordinate := hw u d hp axis
      rwa [coordinate_shift, shiftIndex_of_le hmoves] at hcoordinate
  rw [Rereads, ← h.shiftReferences_eq hf hcount, ofText_shiftReferences axis start count _ hmovable]
  exact h.map_shift hf hcount

end Piece

def CellValue.Refers (v : CellValue) (d : CellRef) : Prop :=
  ∃ text pre t post, v = .formula text ∧ Piece.Occurs text.toList pre t d post

def CellValue.relocate (f : CellRef → CellRef) : CellValue → CellValue
  | formula s => formula (Piece.relocateReferences f s)
  | v => v

namespace Cell

open CellRef

variable {axis : Axis} {start count : Nat} {f : CellRef → CellRef} {c : Cell}

def relocate (f : CellRef → CellRef) (c : Cell) : Cell := { c with value := c.value.relocate f }

theorem relocate_id (c : Cell) : c.relocate id = c := by
  obtain ⟨v, style⟩ := c
  cases v with
  | formula s => rw [relocate, CellValue.relocate, Piece.relocateReferences_id]
  | _ => rfl

def Rereads (f : CellRef → CellRef) (c : Cell) : Prop :=
  ∀ text, c.value = .formula text → Piece.Rereads f text

theorem rereads_id (c : Cell) : c.Rereads id := fun text _ => Piece.rereads_id text

/-- Only native formulas that name cells are concerned with what can be written. -/
theorem carry_relocate (h : c.Rereads f) (hf : Grows f)
    (hw : ∀ d, c.value.Refers d → ((f d).shift axis start count).Writable) :
    (c.relocate f).carry axis start count = c.relocate (CellRef.shift axis start count ∘ f) ∧
      c.Rereads (CellRef.shift axis start count ∘ f) := by
  by_cases hcount : count = 0
  · have hid : CellRef.shift axis start count ∘ f = f :=
      funext fun d => by rw [hcount]; exact CellRef.shift_zero axis start (f d)
    rw [hid, carry, if_pos hcount]
    exact ⟨rfl, h⟩
  · rw [carry, if_neg hcount]
    obtain ⟨v, style⟩ := c
    cases v with
    | formula s =>
      have hs : Piece.Rereads f s := h s rfl
      constructor
      · simp only [relocate, CellValue.relocate, shift, CellValue.shift,
          hs.shiftReferences_eq hf hcount]
      · rintro _ ⟨⟩
        refine hs.shift hf hcount fun t d hmem => hw d ?_
        obtain ⟨pre, post, hoccurs⟩ := Piece.reference_mem_ofText_iff.1 hmem
        exact ⟨s, pre, t, post, rfl, hoccurs⟩
    | _ => exact ⟨rfl, nofun⟩

end Cell

def nativeSample : Sheet :=
  ({ name := "Sums" } : Sheet)
    |>.setValue ⟨0, 0⟩ (.text "\x7b\x7b[x]a\x7d\x7d")
    |>.setValue ⟨1, 1⟩ (.formula "A1+$b02")
    |>.merge ⟨0, 2, 1, 3⟩

theorem occurs_nativeSample {pre post : List Char} {t : RefToken} {d : CellRef}
    (h : Piece.Occurs "A1+$b02".toList pre t d post) : d = ⟨0, 0⟩ ∨ d = ⟨1, 1⟩ := by
  have hpieces : Piece.ofText "A1+$b02".toList =
      [.reference ⟨false, ['A'], false, ['1']⟩ ⟨0, 0⟩, .other ['+'],
        .reference ⟨true, ['b'], false, ['0', '2']⟩ ⟨1, 1⟩] := by
    cbv
  have hmem := Piece.reference_mem_ofText_iff.2 ⟨pre, post, h⟩
  rw [hpieces] at hmem
  simp only [List.mem_cons, Piece.reference.injEq, List.not_mem_nil, reduceCtorEq, or_false,
    false_or] at hmem
  exact hmem.imp And.right And.right

end SheetTemplate
