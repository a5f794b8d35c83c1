import SheetTemplate.Proofs.Insertion

namespace SheetTemplate

namespace Grid

theorem height_pos (g : Grid) : 0 < g.height := List.length_pos_iff.2 g.rows_ne_nil

theorem exists_get? (g : Grid) {r c : Nat} (hr : r < g.height) (hc : c < g.width) :
    ∃ x, g.get? r c = some x := by
  have hlen : g.rows[r].length = g.width := g.length_row _ (List.getElem_mem hr)
  rw [← hlen] at hc
  refine ⟨g.rows[r][c], ?_⟩
  rw [get?, List.getElem?_eq_getElem hr, Option.bind_some, List.getElem?_eq_getElem hc]

theorem lt_of_get? {g : Grid} {r c : Nat} {x : Scalar} (h : g.get? r c = some x) :
    r < g.height ∧ c < g.width := by
  obtain ⟨row, hrow, hx⟩ := Option.bind_eq_some_iff.1 h
  obtain ⟨hr, rfl⟩ := List.getElem?_eq_some_iff.1 hrow
  obtain ⟨hc, -⟩ := List.getElem?_eq_some_iff.1 hx
  exact ⟨hr, (g.length_row _ (List.getElem_mem hr)) ▸ hc⟩

theorem mem_entries {g : Grid} {r c : Nat} {x : Scalar} :
    (r, c, x) ∈ g.entries ↔ g.get? r c = some x := by
  simp only [entries, List.mem_flatMap, List.mem_map, Prod.exists, Prod.mk.injEq,
    List.mk_mem_zipIdx_iff_getElem?, get?, Option.bind_eq_some_iff]
  constructor
  · rintro ⟨row, _, hrow, _, _, hx, rfl, rfl, rfl⟩
    exact ⟨row, hrow, hx⟩
  · rintro ⟨row, hrow, hx⟩
    exact ⟨row, r, hrow, x, c, hx, rfl, rfl, rfl⟩

/-- The value of a cell that held `old` after an item of the grid is written there. An item that
is not of the format's type is not written. -/
def written (g : Grid) (format : FormatSpec) (old : CellValue) (r c : Nat) : CellValue :=
  ((g.get? r c).bind (CellValue.ofScalar? format)).getD old

end Grid

namespace CellRef

theorem offset_inj {pos : CellRef} {r c r' c' : Nat} :
    pos.offset c r = pos.offset c' r' ↔ r = r' ∧ c = c' := by
  simp [offset]

end CellRef

namespace Sheet

variable (s : Sheet)

theorem getElem?_setValue (pos x : CellRef) (v : CellValue) :
    (s.setValue pos v).cells[x]? =
      if pos = x then some { s.cellAt pos with value := v } else s.cells[x]? := by
  simp only [setValue, Std.TreeMap.getElem?_insert, Std.LawfulEqCmp.compare_eq_iff_eq]

theorem cellAt_eq_of_getElem? {s : Sheet} {pos : CellRef} {cell : Cell}
    (h : s.cells[pos]? = some cell) : s.cellAt pos = cell := by
  rw [cellAt, h, Option.getD_some]

theorem mem_cells_iff {s : Sheet} {pos : CellRef} :
    pos ∈ s.cells ↔ ∃ cell, s.cells[pos]? = some cell := by
  rw [Std.TreeMap.mem_iff_isSome_getElem?, Option.isSome_iff_exists]

theorem valueAt_setValue (pos x : CellRef) (v : CellValue) :
    (s.setValue pos v).valueAt x = if pos = x then v else s.valueAt x := by
  unfold valueAt cellAt
  rw [getElem?_setValue]
  split <;> rfl

theorem styleAt_setValue (pos x : CellRef) (v : CellValue) :
    (s.setValue pos v).styleAt x = s.styleAt x := by
  unfold styleAt cellAt
  rw [getElem?_setValue]
  split
  case isTrue h => rw [h]; rfl
  case isFalse => rfl

def writeEntry (pos : CellRef) (format : FormatSpec) (s : Sheet) (e : Nat × Nat × Scalar) : Sheet :=
  match CellValue.ofScalar? format e.2.2 with
  | some v => s.setValue (pos.offset e.2.1 e.1) v
  | none => s

theorem writeGrid_eq_foldl (pos : CellRef) (format : FormatSpec) (g : Grid) :
    s.writeGrid pos format g = g.entries.foldl (writeEntry pos format) s :=
  rfl

variable {s} {pos : CellRef} {format : FormatSpec}

theorem valueAt_writeEntry {r c : Nat} {x : Scalar} :
    (s.writeEntry pos format (r, c, x)).valueAt (pos.offset c r) =
      (CellValue.ofScalar? format x).getD (s.valueAt (pos.offset c r)) := by
  unfold writeEntry
  dsimp only
  split
  case h_1 v hv => rw [hv, valueAt_setValue, if_pos rfl, Option.getD_some]
  case h_2 hv => rw [hv, Option.getD_none]

theorem getElem?_writeEntry_of_ne {e : Nat × Nat × Scalar} {x : CellRef}
    (h : pos.offset e.2.1 e.1 ≠ x) : (s.writeEntry pos format e).cells[x]? = s.cells[x]? := by
  unfold writeEntry
  split
  case h_1 => rw [getElem?_setValue, if_neg h]
  case h_2 => rfl

theorem styleAt_writeEntry (e : Nat × Nat × Scalar) (x : CellRef) :
    (s.writeEntry pos format e).styleAt x = s.styleAt x := by
  unfold writeEntry
  split
  case h_1 => rw [styleAt_setValue]
  case h_2 => rfl

theorem frame_writeEntry (s : Sheet) (pos : CellRef) (format : FormatSpec)
    (e : Nat × Nat × Scalar) :
    (s.writeEntry pos format e).name = s.name ∧ (s.writeEntry pos format e).merges = s.merges := by
  unfold writeEntry
  split <;> exact ⟨rfl, rfl⟩

theorem getElem?_foldl_writeEntry (l : List (Nat × Nat × Scalar)) {x : CellRef}
    (h : ∀ e ∈ l, pos.offset e.2.1 e.1 ≠ x) :
    (l.foldl (writeEntry pos format) s).cells[x]? = s.cells[x]? := by
  induction l generalizing s with
  | nil => rfl
  | cons e l ih =>
    rw [List.foldl_cons, ih fun e' he' => h e' (List.mem_cons_of_mem _ he')]
    exact getElem?_writeEntry_of_ne (h e List.mem_cons_self)

theorem valueAt_foldl_writeEntry (l : List (Nat × Nat × Scalar)) {r c : Nat} {x : Scalar}
    (hx : (r, c, x) ∈ l) (honly : ∀ y, (r, c, y) ∈ l → y = x) :
    (l.foldl (writeEntry pos format) s).valueAt (pos.offset c r) =
      (CellValue.ofScalar? format x).getD (s.valueAt (pos.offset c r)) := by
  induction l generalizing s with
  | nil => cases hx
  | cons e l ih =>
    obtain ⟨r', c', y⟩ := e
    rw [List.foldl_cons]
    by_cases hl : (r, c, x) ∈ l
    · rw [ih hl fun y hy => honly y (List.mem_cons_of_mem _ hy)]
      by_cases he : r' = r ∧ c' = c
      · obtain ⟨rfl, rfl⟩ := he
        obtain rfl := honly y List.mem_cons_self
        rw [valueAt_writeEntry]
        cases CellValue.ofScalar? format y <;> rfl
      · rw [valueAt, cellAt, getElem?_writeEntry_of_ne fun h => he (CellRef.offset_inj.1 h)]
        rfl
    · -- The item stands first, and nothing after it is written to its cell.
      obtain ⟨rfl, rfl, rfl⟩ : r = r' ∧ c = c' ∧ x = y := by
        simpa [hl] using hx
      rw [valueAt, cellAt, getElem?_foldl_writeEntry l ?_]
      · exact valueAt_writeEntry
      · rintro ⟨r', c', y⟩ he h
        obtain ⟨rfl, rfl⟩ := CellRef.offset_inj.1 h
        exact hl (honly y (List.mem_cons_of_mem _ he) ▸ he)

theorem valueAt_writeGrid {g : Grid} {r c : Nat} (hr : r < g.height) (hc : c < g.width) :
    (s.writeGrid pos format g).valueAt (pos.offset c r) =
      g.written format (s.valueAt (pos.offset c r)) r c := by
  obtain ⟨x, hx⟩ := g.exists_get? hr hc
  rw [writeGrid_eq_foldl, valueAt_foldl_writeEntry g.entries (Grid.mem_entries.2 hx) ?_,
    Grid.written, hx, Option.bind_some]
  intro y hy
  rw [Grid.mem_entries, hx] at hy
  exact (Option.some.inj hy).symm

theorem getElem?_writeGrid_of_not_mem {g : Grid} {x : CellRef}
    (h : ∀ r < g.height, ∀ c < g.width, pos.offset c r ≠ x) :
    (s.writeGrid pos format g).cells[x]? = s.cells[x]? := by
  rw [writeGrid_eq_foldl]
  apply getElem?_foldl_writeEntry
  rintro ⟨r, c, y⟩ he
  obtain ⟨hr, hc⟩ := Grid.lt_of_get? (Grid.mem_entries.1 he)
  exact h r hr c hc

theorem styleAt_writeGrid (g : Grid) (x : CellRef) :
    (s.writeGrid pos format g).styleAt x = s.styleAt x := by
  rw [writeGrid_eq_foldl]
  induction g.entries generalizing s with
  | nil => rfl
  | cons e l ih => rw [List.foldl_cons, ih, styleAt_writeEntry]

theorem frame_writeGrid (s : Sheet) (pos : CellRef) (format : FormatSpec) (g : Grid) :
    (s.writeGrid pos format g).name = s.name ∧
      (s.writeGrid pos format g).merges = s.merges := by
  rw [writeGrid_eq_foldl]
  induction g.entries generalizing s with
  | nil => exact ⟨rfl, rfl⟩
  | cons e l ih =>
    obtain ⟨hname, hmerges⟩ := ih (s.writeEntry pos format e)
    obtain ⟨hname', hmerges'⟩ := frame_writeEntry s pos format e
    exact ⟨hname.trans hname', hmerges.trans hmerges'⟩

theorem getElem?_setStyleAt (s : Sheet) (id : Nat) (pos x : CellRef) :
    (s.setStyleAt id pos).cells[x]? =
      if pos = x then some { s.cellAt pos with style := id } else s.cells[x]? := by
  simp only [setStyleAt, Std.TreeMap.getElem?_insert, Std.LawfulEqCmp.compare_eq_iff_eq]

theorem valueAt_setStyleAt (s : Sheet) (id : Nat) (pos x : CellRef) :
    (s.setStyleAt id pos).valueAt x = s.valueAt x := by
  unfold valueAt cellAt
  rw [getElem?_setStyleAt]
  split
  case isTrue h => rw [h]; rfl
  case isFalse => rfl

theorem getElem?_foldl_setStyleAt (l : List CellRef) (s : Sheet) (id : Nat) (x : CellRef) :
    (l.foldl (·.setStyleAt id) s).cells[x]? =
      if x ∈ l then some ⟨s.valueAt x, id⟩ else s.cells[x]? := by
  induction l generalizing s with
  | nil => rw [List.foldl_nil, if_neg List.not_mem_nil]
  | cons pos l ih =>
    rw [List.foldl_cons, ih, valueAt_setStyleAt, getElem?_setStyleAt]
    by_cases hl : x ∈ l
    · rw [if_pos hl, if_pos (List.mem_cons_of_mem _ hl)]
    · rw [if_neg hl]
      by_cases hpos : pos = x
      · subst hpos
        rw [if_pos rfl, if_pos List.mem_cons_self]
        rfl
      · rw [if_neg hpos, if_neg]
        simpa [hl] using Ne.symm hpos

theorem frame_setStyle (s : Sheet) (area : Area) (id : Nat) :
    (s.setStyle area id).name = s.name ∧ (s.setStyle area id).merges = s.merges := by
  unfold setStyle
  induction area.cells generalizing s with
  | nil => exact ⟨rfl, rfl⟩
  | cons pos l ih => exact ih _

end Sheet

namespace Area

theorem mem_cells {a : Area} {c : CellRef} : c ∈ a.cells ↔ c ∈ a := by
  obtain ⟨row, col⟩ := c
  simp only [cells, List.mem_flatMap, List.mem_map, List.mem_range'_1, CellRef.mk.injEq, mem_def]
  constructor
  · rintro ⟨r, hr, c, hc, rfl, rfl⟩
    omega
  · intro h
    exact ⟨row, by omega, col, by omega, rfl, rfl⟩

theorem sized_grid (pos : CellRef) (g : Grid) :
    sized pos g.width g.height =
      ⟨pos.col, pos.row, pos.col + (g.width - 1), pos.row + (g.height - 1)⟩ := by
  have hh := g.height_pos
  have hw := g.width_pos
  rw [sized, ofBounds, mk.injEq]
  omega

theorem mem_sized_iff {pos x : CellRef} {g : Grid} :
    x ∈ sized pos g.width g.height ↔
      ∃ r < g.height, ∃ c < g.width, pos.offset c r = x := by
  have hh := g.height_pos
  have hw := g.width_pos
  obtain ⟨row, col⟩ := x
  rw [sized_grid, mem_def]
  dsimp only
  constructor
  · intro h
    refine ⟨row - pos.row, by omega, col - pos.col, by omega, ?_⟩
    rw [CellRef.offset, CellRef.mk.injEq]
    omega
  · rintro ⟨r, hr, c, hc, heq⟩
    rw [CellRef.offset, CellRef.mk.injEq] at heq
    omega

end Area

/-- A sheet with a grid written at `pos` and all of the grid's cells in one style. -/
def Sheet.put (s : Sheet) (pos : CellRef) (format : FormatSpec) (g : Grid) (id : Nat) : Sheet :=
  (s.writeGrid pos format g).setStyle (.sized pos g.width g.height) id

namespace Sheet

variable {s : Sheet} {pos : CellRef} {format : FormatSpec} {g : Grid} {id : Nat}

theorem getElem?_put_offset {r c : Nat} (hr : r < g.height) (hc : c < g.width) :
    (s.put pos format g id).cells[pos.offset c r]? =
      some ⟨g.written format (s.valueAt (pos.offset c r)) r c, id⟩ := by
  rw [put, setStyle, getElem?_foldl_setStyleAt, if_pos, valueAt_writeGrid hr hc]
  rw [Area.mem_cells, Area.mem_sized_iff]
  exact ⟨r, hr, c, hc, rfl⟩

theorem getElem?_put_of_not_mem {x : CellRef} (h : x ∉ Area.sized pos g.width g.height) :
    (s.put pos format g id).cells[x]? = s.cells[x]? := by
  rw [put, setStyle, getElem?_foldl_setStyleAt, if_neg, getElem?_writeGrid_of_not_mem]
  · intro r hr c hc hx
    exact h (Area.mem_sized_iff.2 ⟨r, hr, c, hc, hx⟩)
  · rwa [Area.mem_cells]

theorem mem_put {x : CellRef} :
    x ∈ (s.put pos format g id).cells ↔ x ∈ Area.sized pos g.width g.height ∨ x ∈ s.cells := by
  by_cases hmem : x ∈ Area.sized pos g.width g.height
  · obtain ⟨r, hr, c, hc, rfl⟩ := Area.mem_sized_iff.1 hmem
    exact iff_of_true (mem_cells_iff.2 ⟨_, getElem?_put_offset hr hc⟩) (.inl hmem)
  · rw [mem_cells_iff, getElem?_put_of_not_mem hmem, ← mem_cells_iff]
    exact (or_iff_right hmem).symm

theorem frame_put :
    (s.put pos format g id).name = s.name ∧ (s.put pos format g id).merges = s.merges := by
  obtain ⟨hname, hmerges⟩ := frame_writeGrid s pos format g
  obtain ⟨hname', hmerges'⟩ :=
    frame_setStyle (s.writeGrid pos format g) (.sized pos g.width g.height) id
  exact ⟨hname'.trans hname, hmerges'.trans hmerges⟩

end Sheet

end SheetTemplate
