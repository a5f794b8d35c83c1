import SheetTemplate.Proofs.BookRun

namespace SheetTemplate

namespace Area

variable {axis : Axis} {start count : Nat} {a b : Area}

def WellFormed (a : Area) : Prop := ∀ axis, a.low axis ≤ a.high axis

def Disjoint (a b : Area) : Prop := ∀ c ∈ a, c ∉ b

theorem mem_iff_ends {c : CellRef} (axis : Axis) :
    c ∈ a ↔ (a.low axis ≤ axis.coordinate c ∧ axis.coordinate c ≤ a.high axis) ∧
      a.low axis.other ≤ axis.other.coordinate c ∧ axis.other.coordinate c ≤ a.high axis.other := by
  rw [mem_def]
  cases axis <;> simp only [low, high, Axis.coordinate, Axis.other_row, Axis.other_column] <;> tauto

theorem ends_shift (axis : Axis) (start count : Nat) (a : Area) :
    ((a.shift axis start count).low axis, (a.shift axis start count).high axis) =
      shiftEnds start count (a.low axis) (a.high axis) := by
  cases axis <;> rfl

theorem ends_other_shift (axis : Axis) (start count : Nat) (a : Area) :
    (a.shift axis start count).low axis.other = a.low axis.other ∧
      (a.shift axis start count).high axis.other = a.high axis.other := by
  cases axis <;> exact ⟨rfl, rfl⟩

theorem low_shift (axis : Axis) (start count : Nat) (a : Area) :
    (a.shift axis start count).low axis = shiftIndex start count (a.low axis) := by
  have hlow : (shiftEnds start count (a.low axis) (a.high axis)).1 =
      shiftIndex start count (a.low axis) := by
    unfold shiftEnds
    by_cases h : start ≤ a.low axis
    · rw [if_pos h, shiftIndex_of_le h]
    · rw [if_neg h, shiftIndex_of_lt (by omega)]
      split <;> rfl
  rw [← hlow, ← ends_shift]

theorem high_shift (h : a.low axis ≤ a.high axis) :
    (a.shift axis start count).high axis = shiftIndex start count (a.high axis) := by
  have hends := ends_shift axis start count a
  rw [shiftEnds_eq h] at hends
  exact congrArg Prod.snd hends

theorem shiftIndex_le_shiftIndex {x y : Nat} (h : x ≤ y) :
    shiftIndex start count x ≤ shiftIndex start count y := by
  unfold shiftIndex
  split <;> split <;> omega

theorem WellFormed.shift (h : a.WellFormed) (axis : Axis) (start count : Nat) :
    (a.shift axis start count).WellFormed := by
  intro axis'
  by_cases haxis : axis' = axis
  · subst haxis
    rw [low_shift, high_shift (h axis')]
    exact shiftIndex_le_shiftIndex (h axis')
  · obtain rfl := Axis.eq_other_of_ne haxis
    obtain ⟨hlow, hhigh⟩ := ends_other_shift axis start count a
    rw [hlow, hhigh]
    exact h axis.other

/-- The index that comes to lie at `x`, and the first one behind the band for the whole band. -/
def comeFrom (start count x : Nat) : Nat :=
  if x < start then x else if x < start + count then start else x - count

theorem comeFrom_between {low high x : Nat} (hlow : (shiftEnds start count low high).1 ≤ x)
    (hhigh : x ≤ (shiftEnds start count low high).2) :
    low ≤ comeFrom start count x ∧ comeFrom start count x ≤ high := by
  unfold shiftEnds at hlow hhigh
  unfold comeFrom
  by_cases hmoved : start ≤ low
  · rw [if_pos hmoved] at hlow hhigh
    dsimp only at hlow hhigh
    split <;> (try split) <;> omega
  · rw [if_neg hmoved] at hlow hhigh
    by_cases hgrown : start ≤ high
    · rw [if_pos hgrown] at hlow hhigh
      dsimp only at hlow hhigh
      split <;> (try split) <;> omega
    · rw [if_neg hgrown] at hlow hhigh
      dsimp only at hlow hhigh
      rw [if_pos (by omega)]
      exact ⟨hlow, hhigh⟩

theorem comeFrom_mem_of_mem_shift {c : CellRef} (h : c ∈ a.shift axis start count) :
    axis.place c (comeFrom start count (axis.coordinate c)) ∈ a := by
  obtain ⟨⟨hlow, hhigh⟩, hother⟩ := (mem_iff_ends axis).1 h
  have hends := ends_shift axis start count a
  rw [(ends_other_shift ..).1, (ends_other_shift ..).2] at hother
  rw [mem_iff_ends axis, Axis.coordinate_place, Axis.coordinate_other_place]
  refine ⟨comeFrom_between ?_ ?_, hother⟩
  · rwa [← hends]
  · rwa [← hends]

theorem Disjoint.shift (h : a.Disjoint b) (axis : Axis) (start count : Nat) :
    (a.shift axis start count).Disjoint (b.shift axis start count) := by
  intro c hca hcb
  exact h _ (comeFrom_mem_of_mem_shift hca) (comeFrom_mem_of_mem_shift hcb)

end Area

namespace Sheet

variable (s : Sheet) (axis : Axis) (start count : Nat)

def takenOut : List (CellRef × Cell) :=
  s.cells.toList.filter fun (c, _) => decide (start ≤ axis.coordinate c)

def leftIn : CellMap :=
  (s.cells.filter fun c _ => decide (axis.coordinate c < start)).map fun _ v =>
    v.shift axis start count

def putBack (taken : List (CellRef × Cell)) : CellMap :=
  (s.leftIn axis start count).insertMany
    (taken.map fun (c, v) => (c.shift axis start count, v.shift axis start count))

variable {s axis start count} {taken : List (CellRef × Cell)}

theorem pairwise_taken (h : taken.Perm (s.takenOut axis start)) :
    (taken.map fun (c, v) =>
      (c.shift axis start count, v.shift axis start count)).Pairwise
        fun a b => ¬ compare a.1 b.1 = .eq := by
  have hsymm : ∀ {a b : CellRef × Cell}, ¬ compare a.1 b.1 = .eq → ¬ compare b.1 a.1 = .eq :=
    fun hab hba => hab (Std.OrientedCmp.eq_symm hba)
  rw [(h.map _).pairwise_iff hsymm]
  exact (s.pairwise_moved axis start count).sublist (List.filter_sublist.map _)

theorem mem_taken (h : taken.Perm (s.takenOut axis start)) {c : CellRef} {cell : Cell} :
    (c, cell) ∈ taken ↔ s.cells[c]? = some cell ∧ start ≤ axis.coordinate c := by
  rw [h.mem_iff, takenOut, List.mem_filter, Std.TreeMap.mem_toList_iff_getElem?_eq_some,
    decide_eq_true_iff]

theorem getElem?_leftIn (c : CellRef) :
    (s.leftIn axis start count)[c]? =
      if axis.coordinate c < start then (s.cells[c]?).map (·.shift axis start count) else none := by
  rw [leftIn, Std.TreeMap.getElem?_map, Std.TreeMap.getElem?_filter']
  by_cases hc : axis.coordinate c < start
  · simp only [hc, decide_true, if_true]
    cases s.cells[c]? <;> rfl
  · simp [hc]

theorem getElem?_putBack_of_ne (h : taken.Perm (s.takenOut axis start)) {x : CellRef}
    (hx : ∀ c ∈ s.cells, start ≤ axis.coordinate c → c.shift axis start count ≠ x) :
    (s.putBack axis start count taken)[x]? = (s.leftIn axis start count)[x]? := by
  refine Std.TreeMap.getElem?_insertMany_list_of_contains_eq_false ?_
  rw [List.contains_eq_mem, decide_eq_false_iff_not, List.map_map, List.mem_map]
  rintro ⟨⟨c, cell⟩, hc, rfl⟩
  obtain ⟨hcell, hmoves⟩ := (mem_taken h).1 hc
  exact hx c (mem_cells_iff.2 ⟨cell, hcell⟩) hmoves rfl

/-- In whatever order the cells are put back, none of them meets another. -/
theorem getElem?_putBack (hcount : count ≠ 0) (h : taken.Perm (s.takenOut axis start))
    (x : CellRef) :
    (s.putBack axis start count taken)[x]? = (s.insert axis start count).cells[x]? := by
  by_cases hx : ∃ c ∈ s.cells, c.shift axis start count = x
  · obtain ⟨c, hc, rfl⟩ := hx
    obtain ⟨cell, hcell⟩ := mem_cells_iff.1 hc
    rw [getElem?_insert_shift, hcell, Option.map_some, Cell.carry, if_neg hcount]
    by_cases hmoves : start ≤ axis.coordinate c
    · refine Std.TreeMap.getElem?_insertMany_list_of_mem Std.ReflCmp.compare_self
        (pairwise_taken h) ?_
      exact List.mem_map.2 ⟨(c, cell), (mem_taken h).2 ⟨hcell, hmoves⟩, rfl⟩
    · have hstays : c.shift axis start count = c := CellRef.shift_of_lt (Nat.lt_of_not_le hmoves)
      rw [getElem?_putBack_of_ne h, hstays, getElem?_leftIn, if_pos (Nat.lt_of_not_le hmoves), hcell]
      · rfl
      · intro d _ hd heq
        exact hmoves (CellRef.shift_inj.1 heq ▸ hd)
  · have hnone : x ∉ (s.insert axis start count).cells := by
      rwa [mem_insert]
    rw [Std.TreeMap.getElem?_eq_none hnone, getElem?_putBack_of_ne h, getElem?_leftIn]
    · split
      · rename_i hstays
        have hmem : x ∉ s.cells := by
          intro hmem
          exact hx ⟨x, hmem, CellRef.shift_of_lt hstays⟩
        rw [Std.TreeMap.getElem?_eq_none hmem]
        rfl
      · rfl
    · intro c hc _ heq
      exact hx ⟨c, hc, heq⟩

end Sheet

/-- What sheet `s` has become after `count` rows or columns are inserted before index `start`. -/
structure Relocated (axis : Axis) (start count : Nat) (s s' : Sheet) : Prop where
  name : s'.name = s.name
  /-- Cells keep their styles and, up to the texts of native formulas, their values. -/
  moved : ∀ (c : CellRef) (cell : Cell), s.cells[c]? = some cell →
    ∃ v, cell.value.Alike v ∧ s'.cells[c.shift axis start count]? = some ⟨v, cell.style⟩
  apart : ∀ c d : CellRef, c.shift axis start count = d.shift axis start count → c = d
  only : ∀ x ∈ s'.cells, ∃ c ∈ s.cells, c.shift axis start count = x
  band : ∀ x ∈ s'.cells, axis.coordinate x < start ∨ start + count ≤ axis.coordinate x
  size : s'.cells.size = s.cells.size
  merges : s'.merges = s.merges.map (·.shift axis start count)
  wellFormed : (∀ a ∈ s.merges, a.WellFormed) → ∀ a ∈ s'.merges, a.WellFormed
  disjoint : s.merges.Pairwise Area.Disjoint → s'.merges.Pairwise Area.Disjoint
  /-- The cells that move may be taken out and put back in any order. -/
  putBack : count ≠ 0 → ∀ taken : List (CellRef × Cell), taken.Perm (s.takenOut axis start) →
    ∀ x : CellRef, (s.putBack axis start count taken)[x]? = s'.cells[x]?

theorem Sheet.relocated_insert (s : Sheet) (axis : Axis) (start count : Nat) :
    Relocated axis start count s (s.insert axis start count) := by
  constructor
  case name => exact s.name_insert axis start count
  case moved =>
    intro c cell hcell
    refine ⟨(cell.carry axis start count).value, cell.alike_carry axis start count, ?_⟩
    rw [s.getElem?_insert_shift, hcell, Option.map_some, ← cell.style_carry axis start count]
  case apart =>
    intro c d hcd
    exact CellRef.shift_inj.1 hcd
  case only =>
    intro x hx
    exact (s.mem_insert axis start count).1 hx
  case band =>
    intro x hx
    obtain ⟨c, -, rfl⟩ := (s.mem_insert axis start count).1 hx
    rw [CellRef.coordinate_shift]
    exact lt_or_le_of_shiftIndex start count _
  case size => exact s.size_insert axis start count
  case merges => exact s.merges_insert axis start count
  case wellFormed =>
    intro h a ha
    rw [s.merges_insert] at ha
    obtain ⟨b, hb, rfl⟩ := List.mem_map.1 ha
    exact (h b hb).shift axis start count
  case disjoint =>
    intro h
    rw [s.merges_insert, List.pairwise_map]
    exact h.imp fun hab => hab.shift axis start count
  case putBack =>
    intro hcount taken htaken x
    exact getElem?_putBack hcount htaken x

namespace Workbook

variable {b : Workbook} {s : Sheet} {front later : List Sheet}

theorem insert_of_split (h : b.sheets = front ++ s :: later) (axis : Axis) (start count : Nat) :
    ∃ b', b.insert s.name axis start count = .ok b' ∧
      b'.sheets = front ++ s.insert axis start count :: later ∧ b'.styles = b.styles := by
  have hupdate := updateFirst_split h (·.insert axis start count)
  rw [← s.name_insert axis start count] at hupdate
  unfold insert modifySheet
  rw [findSheet?_of_split h]
  refine ⟨_, rfl, ?_, rfl⟩
  rw [← s.name_insert axis start count]
  exact hupdate

/-- An insertion moves the cells and the merged regions of its sheet by one map, and changes nothing
else in the workbook. -/
theorem insert_relocates (hs : s ∈ b.sheets) (axis : Axis) (start count : Nat) :
    (∃ front later b' s', b.sheets = front ++ s :: later ∧
      b.insert s.name axis start count = .ok b' ∧ b'.sheets = front ++ s' :: later ∧
      b'.styles = b.styles ∧ Relocated axis start count s s') ∧
    ∀ a : Area,
      (∀ c : CellRef, c.shift axis start count ∈ a.shift axis start count ↔ c ∈ a) ∧
      (a.shift axis start count).low axis = shiftIndex start count (a.low axis) ∧
      (a.low axis ≤ a.high axis →
        (a.shift axis start count).high axis = shiftIndex start count (a.high axis)) ∧
      (a.shift axis start count).low axis.other = a.low axis.other ∧
      (a.shift axis start count).high axis.other = a.high axis.other := by
  constructor
  · obtain ⟨front, later, hsplit⟩ := List.append_of_mem hs
    obtain ⟨b', hb', hsheets, hstyles⟩ := insert_of_split hsplit axis start count
    exact ⟨front, later, b', _, hsplit, hb', hsheets, hstyles, s.relocated_insert axis start count⟩
  · intro a
    exact ⟨fun c => Area.shift_mem_shift_iff, Area.low_shift .., Area.high_shift,
      Area.ends_other_shift ..⟩

/-- Merged regions across, at and right before row 1. -/
def regionsSheet : Sheet :=
  { sampleSheet with merges := [⟨2, 0, 2, 1⟩, ⟨3, 1, 4, 2⟩, ⟨3, 0, 4, 0⟩] }

def regionsBook : Workbook := { sheets := [regionsSheet] }

theorem disjoint_regions : regionsSheet.merges.Pairwise Area.Disjoint := by
  have hapart {a b : Area} (hab : a.right < b.left ∨ b.bottom < a.top) : a.Disjoint b := by
    intro c ha hb
    rw [Area.mem_def] at ha hb
    omega
  refine .cons (List.forall_mem_cons.2 ⟨hapart (by decide), List.forall_mem_singleton.2 ?_⟩) ?_
  · exact hapart (by decide)
  · exact .cons (List.forall_mem_singleton.2 (hapart (by decide))) (List.pairwise_singleton ..)

theorem insert_relocates_sample :
    regionsSheet ∈ regionsBook.sheets ∧
      (∃ front later b' s', regionsBook.sheets = front ++ regionsSheet :: later ∧
        regionsBook.insert "Report" .row 1 2 = .ok b' ∧ b'.sheets = front ++ s' :: later ∧
        b'.styles = regionsBook.styles ∧ Relocated .row 1 2 regionsSheet s' ∧
        s'.merges = [⟨2, 0, 2, 3⟩, ⟨3, 3, 4, 4⟩, ⟨3, 0, 4, 0⟩] ∧
        s'.merges.Pairwise Area.Disjoint) ∧
      ∀ a ∈ regionsSheet.merges,
        (∀ c : CellRef, c.shift .row 1 2 ∈ a.shift .row 1 2 ↔ c ∈ a) ∧
        (a.shift .row 1 2).high .row = shiftIndex 1 2 (a.high .row) := by
  have hs : regionsSheet ∈ regionsBook.sheets := List.mem_singleton.2 rfl
  obtain ⟨⟨front, later, b', s', hsheets, hb', hsheets', hstyles, hrelocated⟩, hareas⟩ :=
    insert_relocates hs .row 1 2
  have hends : ∀ a ∈ regionsSheet.merges, a.low .row ≤ a.high .row := by decide
  refine ⟨hs, ⟨front, later, b', s', hsheets, hb', hsheets', hstyles, hrelocated,
    hrelocated.merges, hrelocated.disjoint disjoint_regions⟩, fun a ha => ?_⟩
  obtain ⟨hcells, -, hhigh, -⟩ := hareas a
  exact ⟨hcells, hhigh (hends a ha)⟩

end Workbook

end SheetTemplate
