import SheetTemplate.Render.Merges
import SheetTemplate.Render.Value

namespace SheetTemplate

theorem shiftIndex_inj {start count x y : Nat} :
    shiftIndex start count x = shiftIndex start count y ↔ x = y := by
  unfold shiftIndex
  split <;> split <;> omega

theorem shiftIndex_of_lt {start count x : Nat} (h : x < start) : shiftIndex start count x = x :=
  if_pos h

theorem shiftIndex_of_le {start count x : Nat} (h : start ≤ x) :
    shiftIndex start count x = x + count :=
  if_neg (Nat.not_lt.2 h)

theorem shiftIndex_zero (start x : Nat) : shiftIndex start 0 x = x := by
  simp [shiftIndex]

/-- No index comes to lie among the inserted ones. -/
theorem lt_or_le_of_shiftIndex (start count x : Nat) :
    shiftIndex start count x < start ∨ start + count ≤ shiftIndex start count x := by
  unfold shiftIndex
  split <;> omega

namespace Axis

def other : Axis → Axis
  | row => column
  | column => row

@[simp] theorem other_row : row.other = column := rfl

@[simp] theorem other_column : column.other = row := rfl

theorem eq_other_of_ne {axis axis' : Axis} (h : axis' ≠ axis) : axis' = axis.other := by
  cases axis <;> cases axis' <;> first | rfl | exact absurd rfl h

theorem coordinate_place (axis : Axis) (c : CellRef) (n : Nat) :
    axis.coordinate (axis.place c n) = n := by
  cases axis <;> rfl

theorem coordinate_other_place (axis : Axis) (c : CellRef) (n : Nat) :
    axis.other.coordinate (axis.place c n) = axis.other.coordinate c := by
  cases axis <;> rfl

theorem ext_coordinate (axis : Axis) {c d : CellRef} (h : axis.coordinate c = axis.coordinate d)
    (h' : axis.other.coordinate c = axis.other.coordinate d) : c = d := by
  cases c
  cases d
  cases axis <;> simp_all [coordinate]

end Axis

namespace CellRef

theorem coordinate_shift (axis : Axis) (start count : Nat) (c : CellRef) :
    axis.coordinate (c.shift axis start count) = shiftIndex start count (axis.coordinate c) :=
  axis.coordinate_place _ _

theorem coordinate_other_shift (axis : Axis) (start count : Nat) (c : CellRef) :
    axis.other.coordinate (c.shift axis start count) = axis.other.coordinate c :=
  axis.coordinate_other_place _ _

theorem shift_inj {axis : Axis} {start count : Nat} {c d : CellRef} :
    c.shift axis start count = d.shift axis start count ↔ c = d := by
  constructor
  · intro h
    apply axis.ext_coordinate
    · rw [← shiftIndex_inj, ← coordinate_shift, ← coordinate_shift, h]
    · rw [← coordinate_other_shift axis start count, h, coordinate_other_shift]
  · rintro rfl
    rfl

theorem shift_of_lt {axis : Axis} {start count : Nat} {c : CellRef}
    (h : axis.coordinate c < start) : c.shift axis start count = c := by
  cases axis <;> simp only [shift, shiftIndex_of_lt h] <;> rfl

theorem shift_zero (axis : Axis) (start : Nat) (c : CellRef) : c.shift axis start 0 = c := by
  cases axis <;> simp [shift, shiftIndex_zero, Axis.place, Axis.coordinate]

end CellRef

namespace Area

theorem mem_def {a : Area} {c : CellRef} :
    c ∈ a ↔ a.left ≤ c.col ∧ c.col ≤ a.right ∧ a.top ≤ c.row ∧ c.row ≤ a.bottom :=
  Iff.rfl

theorem shiftEnds_eq {start count low high : Nat} (h : low ≤ high) :
    shiftEnds start count low high = (shiftIndex start count low, shiftIndex start count high) := by
  unfold shiftEnds shiftIndex
  by_cases hlow : start ≤ low
  · rw [if_pos hlow, if_neg (by omega), if_neg (by omega)]
  · rw [if_neg hlow, if_pos (show low < start by omega)]
    by_cases hhigh : start ≤ high
    · rw [if_pos hhigh, if_neg (by omega)]
    · rw [if_neg hhigh, if_pos (by omega)]

theorem shiftIndex_mem_shiftEnds_iff (start count low high x : Nat) :
    (shiftEnds start count low high).1 ≤ shiftIndex start count x ∧
        shiftIndex start count x ≤ (shiftEnds start count low high).2 ↔ low ≤ x ∧ x ≤ high := by
  unfold shiftEnds shiftIndex
  split <;> split <;> (try split) <;> dsimp only <;> omega

/-- An area keeps exactly its cells, wherever an insertion moves them. -/
theorem shift_mem_shift_iff {axis : Axis} {start count : Nat} {a : Area} {c : CellRef} :
    c.shift axis start count ∈ a.shift axis start count ↔ c ∈ a := by
  cases axis with
  | row =>
    have h := shiftIndex_mem_shiftEnds_iff start count a.top a.bottom c.row
    simp only [mem_def, shift, CellRef.shift, Axis.place, Axis.coordinate]
    rw [h]
  | column =>
    have h := shiftIndex_mem_shiftEnds_iff start count a.left a.right c.col
    simp only [mem_def, shift, CellRef.shift, Axis.place, Axis.coordinate]
    rw [← and_assoc, h, and_assoc]

theorem shift_zero (axis : Axis) (start : Nat) (a : Area) : a.shift axis start 0 = a := by
  cases axis <;> simp [shift, shiftEnds]

end Area

/-- A cell after an insertion; inserting nothing leaves the texts of native formulas alone. -/
def Cell.carry (axis : Axis) (start count : Nat) (c : Cell) : Cell :=
  if count = 0 then c else c.shift axis start count

namespace Sheet

variable (s : Sheet) (axis : Axis) (start count : Nat)

@[simp] theorem name_insert : (s.insert axis start count).name = s.name := by
  unfold insert
  split <;> rfl

@[simp] theorem insert_zero : s.insert axis start 0 = s := if_pos rfl

theorem merges_insert :
    (s.insert axis start count).merges = s.merges.map (·.shift axis start count) := by
  unfold insert
  split
  case isTrue h => simp [h, Area.shift_zero]
  case isFalse => rfl

/-- No two cells are moved to one place. -/
theorem pairwise_moved :
    (s.cells.toList.map fun (c, v) =>
      (c.shift axis start count, v.shift axis start count)).Pairwise
        fun a b => ¬ compare a.1 b.1 = .eq := by
  rw [List.pairwise_map]
  refine Std.TreeMap.distinct_keys_toList.imp ?_
  intro a b hne heq
  refine hne (Std.LawfulEqCmp.compare_eq_iff_eq.2 ?_)
  exact CellRef.shift_inj.1 (Std.LawfulEqCmp.compare_eq_iff_eq.1 heq)

theorem getElem?_insert_shift (c : CellRef) :
    (s.insert axis start count).cells[c.shift axis start count]? =
      (s.cells[c]?).map (·.carry axis start count) := by
  unfold insert
  split
  case isTrue h => subst h; simp [CellRef.shift_zero, Cell.carry]
  case isFalse hcount =>
    dsimp only
    cases hc : s.cells[c]? with
    | some cell =>
      refine Std.TreeMap.getElem?_ofList_of_mem Std.ReflCmp.compare_self ?_ ?_
      · exact s.pairwise_moved axis start count
      · refine List.mem_map.2 ⟨(c, cell), Std.TreeMap.mem_toList_iff_getElem?_eq_some.2 hc, ?_⟩
        simp [Cell.carry, hcount]
    | none =>
      refine Std.TreeMap.getElem?_ofList_of_contains_eq_false ?_
      rw [List.contains_eq_mem, decide_eq_false_iff_not, List.map_map, List.mem_map]
      rintro ⟨⟨d, cell⟩, hd, heq⟩
      obtain rfl : d = c := CellRef.shift_inj.1 heq
      rw [Std.TreeMap.mem_toList_iff_getElem?_eq_some, hc] at hd
      cases hd

theorem mem_insert {x : CellRef} :
    x ∈ (s.insert axis start count).cells ↔ ∃ c ∈ s.cells, c.shift axis start count = x := by
  unfold insert
  split
  case isTrue h => subst h; simp [CellRef.shift_zero]
  case isFalse hcount =>
    dsimp only
    rw [Std.TreeMap.mem_ofList, List.contains_eq_mem, decide_eq_true_iff, List.map_map,
      List.mem_map]
    constructor
    · rintro ⟨⟨c, cell⟩, hc, rfl⟩
      rw [Std.TreeMap.mem_toList_iff_getElem?_eq_some] at hc
      exact ⟨c, Std.TreeMap.mem_iff_isSome_getElem?.2 (by rw [hc]; rfl), rfl⟩
    · rintro ⟨c, hc, rfl⟩
      obtain ⟨cell, hcell⟩ := Option.isSome_iff_exists.1 (Std.TreeMap.mem_iff_isSome_getElem?.1 hc)
      exact ⟨(c, cell), Std.TreeMap.mem_toList_iff_getElem?_eq_some.2 hcell, rfl⟩

theorem size_insert : (s.insert axis start count).cells.size = s.cells.size := by
  unfold insert
  split
  case isTrue => rfl
  case isFalse =>
    dsimp only
    rw [Std.TreeMap.size_ofList (s.pairwise_moved axis start count), List.length_map,
      Std.TreeMap.length_toList]

end Sheet

def Grid.size : Axis → Grid → Nat
  | .row, g => g.height
  | .column, g => g.width

def CellRef.giveWay (c pos : CellRef) (g : Grid) : CellRef :=
  (c.shift .row (pos.row + 1) (g.height - 1)).shift .column (pos.col + 1) (g.width - 1)

def Area.giveWay (a : Area) (pos : CellRef) (g : Grid) : Area :=
  (a.shift .row (pos.row + 1) (g.height - 1)).shift .column (pos.col + 1) (g.width - 1)

def Cell.giveWay (c : Cell) (pos : CellRef) (g : Grid) : Cell :=
  (c.carry .row (pos.row + 1) (g.height - 1)).carry .column (pos.col + 1) (g.width - 1)

/-- Inserts the rows and columns that a grid at `pos` needs more than one. -/
def Sheet.makeRoom (s : Sheet) (pos : CellRef) (g : Grid) : Sheet :=
  (s.insert .row (pos.row + 1) (g.height - 1)).insert .column (pos.col + 1) (g.width - 1)

theorem Area.giveWay_mem_giveWay_iff {pos c : CellRef} {g : Grid} {a : Area} :
    c.giveWay pos g ∈ a.giveWay pos g ↔ c ∈ a := by
  rw [CellRef.giveWay, giveWay, shift_mem_shift_iff, shift_mem_shift_iff]

theorem Area.giveWay_corners (pos : CellRef) (g : Grid) {c d : CellRef} (hrow : c.row ≤ d.row)
    (hcol : c.col ≤ d.col) :
    (⟨c.col, c.row, d.col, d.row⟩ : Area).giveWay pos g =
      ⟨(c.giveWay pos g).col, (c.giveWay pos g).row, (d.giveWay pos g).col,
        (d.giveWay pos g).row⟩ := by
  rw [giveWay, shift, shift, shiftEnds_eq hrow, shiftEnds_eq hcol]
  rfl

theorem covered_giveWay (areas : List Area) (pos c : CellRef) (g : Grid) :
    covered (areas.map (·.giveWay pos g)) (c.giveWay pos g) = covered areas c := by
  simp only [covered, List.any_map, Function.comp_def, Area.giveWay_mem_giveWay_iff]

theorem Cell.style_carry (axis : Axis) (start count : Nat) (c : Cell) :
    (c.carry axis start count).style = c.style := by
  unfold carry
  split <;> rfl

@[simp] theorem Cell.style_giveWay (pos : CellRef) (g : Grid) (c : Cell) :
    (c.giveWay pos g).style = c.style := by
  rw [giveWay, style_carry, style_carry]

namespace Sheet

variable (s : Sheet) (pos : CellRef) (g : Grid)

@[simp] theorem name_makeRoom : (s.makeRoom pos g).name = s.name := by
  rw [makeRoom, name_insert, name_insert]

theorem merges_makeRoom : (s.makeRoom pos g).merges = s.merges.map (·.giveWay pos g) := by
  rw [makeRoom, merges_insert, merges_insert, List.map_map]
  rfl

theorem getElem?_makeRoom (c : CellRef) :
    (s.makeRoom pos g).cells[c.giveWay pos g]? = (s.cells[c]?).map (·.giveWay pos g) := by
  rw [makeRoom, CellRef.giveWay, getElem?_insert_shift, getElem?_insert_shift, Option.map_map]
  rfl

theorem mem_makeRoom {x : CellRef} :
    x ∈ (s.makeRoom pos g).cells ↔ ∃ c ∈ s.cells, c.giveWay pos g = x := by
  rw [makeRoom, mem_insert]
  constructor
  · rintro ⟨d, hd, rfl⟩
    obtain ⟨c, hc, rfl⟩ := (s.mem_insert ..).1 hd
    exact ⟨c, hc, rfl⟩
  · rintro ⟨c, hc, rfl⟩
    exact ⟨_, (s.mem_insert ..).2 ⟨c, hc, rfl⟩, rfl⟩

theorem offset_not_mem_makeRoom {r c : Nat} (hr : r < g.height) (hc : c < g.width)
    (h : ¬(r = 0 ∧ c = 0)) : pos.offset c r ∉ (s.makeRoom pos g).cells := by
  intro hx
  obtain ⟨d, -, hd⟩ := (s.mem_makeRoom pos g).1 hx
  have hrow : shiftIndex (pos.row + 1) (g.height - 1) d.row = pos.row + r :=
    congrArg CellRef.row hd
  have hcol : shiftIndex (pos.col + 1) (g.width - 1) d.col = pos.col + c :=
    congrArg CellRef.col hd
  have hrow' := lt_or_le_of_shiftIndex (pos.row + 1) (g.height - 1) d.row
  have hcol' := lt_or_le_of_shiftIndex (pos.col + 1) (g.width - 1) d.col
  omega

end Sheet

end SheetTemplate
