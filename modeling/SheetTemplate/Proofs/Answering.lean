import SheetTemplate.Proofs.Filling
import SheetTemplate.Proofs.Traversal

namespace SheetTemplate

def RenderStats.count (s : RenderStats) (done : List Answer) : RenderStats :=
  { s with
    formulas := s.formulas + done.length
    rowsInserted := s.rowsInserted + Layout.total .row done
    colsInserted := s.colsInserted + Layout.total .column done }

theorem RenderStats.count_append (s : RenderStats) (done more : List Answer) :
    s.count (done ++ more) = (s.count done).count more := by
  simp only [count, Layout.total, List.length_append, List.map_append, List.sum_append,
    Nat.add_assoc]

theorem Sheet.styleAt_makeRoom (s : Sheet) (pos : CellRef) (g : Grid) :
    (s.makeRoom pos g).styleAt pos = s.styleAt pos := by
  have h := s.getElem?_makeRoom pos g pos
  rw [Layout.giveWay_self] at h
  rw [styleAt, styleAt, cellAt, cellAt, h]
  cases s.cells[pos]? with
  | none => rfl
  | some cell => exact Cell.style_giveWay pos g cell

namespace Pass

variable {κ σ : Type}

def canvas (p : Pass κ σ) : Canvas := ⟨p.sheet, p.styles⟩

def take (p : Pass κ σ) (pos : CellRef) (a : Answer) (merges : κ) : Pass κ σ :=
  { p with
    sheet := (p.canvas.answer pos a).sheet
    styles := (p.canvas.answer pos a).styles
    area := { p.area with
      right := p.area.right + (a.grid.width - 1)
      bottom := p.area.bottom + (a.grid.height - 1) }
    written := p.written.map (·.giveWay pos a.grid) ++ [.sized pos a.grid.width a.grid.height]
    merges
    stats := p.stats.count [a] }

variable [MergeLookup κ] [LawfulMergeLookup κ] {p : Pass κ σ}

/-- Lines are inserted also where none are needed, as it were. -/
theorem insert_spec (h : p.Coherent) (axis : Axis) (start n : Nat) :
    ∃ merges, LawfulMergeLookup.Agrees (p.sheet.insert axis start (n - 1)).merges merges ∧
      (if 1 < n then p.insert axis start (n - 1) else p) =
        { p with
          sheet := p.sheet.insert axis start (n - 1)
          written := p.written.map (·.shift axis start (n - 1))
          merges } := by
  by_cases hn : 1 < n
  · rw [if_pos hn]
    exact ⟨_, LawfulMergeLookup.agrees_invalidate h _, rfl⟩
  · have hzero : n - 1 = 0 := by omega
    rw [if_neg hn, hzero, Sheet.insert_zero]
    simp only [Area.shift_zero, List.map_id']
    exact ⟨p.merges, h, rfl⟩

omit [LawfulMergeLookup κ] in
theorem insertRows_eq (p : Pass κ σ) (pos : CellRef) (g : Grid) :
    p.insertRows pos g =
      { (if 1 < g.height then p.insert .row (pos.row + 1) (g.height - 1) else p) with
        stats := { p.stats with rowsInserted := p.stats.rowsInserted + (g.height - 1) } } := by
  unfold insertRows
  by_cases h : 1 < g.height
  · rw [if_pos h, if_pos h]
    rfl
  · have hzero : g.height - 1 = 0 := by omega
    rw [if_neg h, if_neg h, hzero]
    rfl

omit [LawfulMergeLookup κ] in
theorem insertCols_eq (p : Pass κ σ) (pos : CellRef) (g : Grid) :
    p.insertCols pos g =
      { (if 1 < g.width then p.insert .column (pos.col + 1) (g.width - 1) else p) with
        stats := { p.stats with colsInserted := p.stats.colsInserted + (g.width - 1) } } := by
  unfold insertCols
  by_cases h : 1 < g.width
  · rw [if_pos h, if_pos h]
    rfl
  · have hzero : g.width - 1 = 0 := by omega
    rw [if_neg h, if_neg h, hzero]
    rfl

theorem makeRoom_spec (h : p.Coherent) (pos : CellRef) (g : Grid) :
    ∃ merges, LawfulMergeLookup.Agrees (p.sheet.makeRoom pos g).merges merges ∧
      (p.insertRows pos g).insertCols pos g =
        { p with
          sheet := p.sheet.makeRoom pos g
          written := p.written.map (·.giveWay pos g)
          merges
          stats := { p.stats with
            rowsInserted := p.stats.rowsInserted + (g.height - 1)
            colsInserted := p.stats.colsInserted + (g.width - 1) } } := by
  obtain ⟨k, hk, hrows⟩ := insert_spec h .row (pos.row + 1) g.height
  have hrows' := insertRows_eq p pos g
  rw [hrows] at hrows'
  have hcoherent : (p.insertRows pos g).Coherent := by rwa [hrows']
  obtain ⟨k', hk', hcols⟩ := insert_spec hcoherent .column (pos.col + 1) g.width
  rw [insertCols_eq, hcols]
  rw [hrows'] at hk' ⊢
  refine ⟨k', hk', ?_⟩
  simp only [List.map_map]
  rfl

theorem apply_of_style (h : p.Coherent) (pos : CellRef) (a : Answer) {style : Style}
    (hstyle : p.styles[p.sheet.styleAt pos]? = some style) :
    ∃ merges, (p.take pos a merges).Coherent ∧
      p.apply pos a.formula.format a.grid = (.ok (), p.take pos a merges) := by
  obtain ⟨k, hk, hroom⟩ := makeRoom_spec h pos a.grid
  refine ⟨MergeLookup.invalidate k, LawfulMergeLookup.agrees_invalidate hk _, ?_⟩
  rw [apply, hroom]
  dsimp only
  rw [Sheet.styleAt_writeGrid, Sheet.styleAt_makeRoom, hstyle, take, Canvas.answer, canvas]
  dsimp only
  rw [hstyle, Option.getD_some]
  simp only [RenderStats.count, Layout.total, List.map_singleton, List.sum_singleton]
  rfl

theorem apply_of_no_style (h : p.Coherent) (pos : CellRef) (format : FormatSpec) (g : Grid)
    (hstyle : p.styles[p.sheet.styleAt pos]? = none) :
    ∃ p', p'.engine = p.engine ∧ p'.sheet = (p.sheet.makeRoom pos g).writeGrid pos format g ∧
      p.apply pos format g = (.error (.unknownStyle (p.sheet.styleAt pos)), p') := by
  obtain ⟨k, -, hroom⟩ := makeRoom_spec h pos g
  rw [apply, hroom]
  dsimp only
  rw [Sheet.styleAt_writeGrid, Sheet.styleAt_makeRoom, hstyle]
  exact ⟨_, by rfl, by rfl, rfl⟩

variable [Evaluator σ] {f : Found} {engine : σ}

omit [LawfulMergeLookup κ] in
theorem answer_of_error {e : EngineError} (pos : CellRef)
    (heval : Evaluator.evaluate f.formula p.engine = (.error e, engine)) :
    ∃ journal, p.answer pos f = (.error (.engine e), { p with engine, journal }) := by
  rw [answer]
  dsimp only [addLine]
  rw [heval]
  exact ⟨_, rfl⟩

omit [LawfulMergeLookup κ] in
theorem answer_of_ok {g : Grid} (pos : CellRef)
    (heval : Evaluator.evaluate f.formula p.engine = (.ok g, engine)) :
    ∃ journal, p.answer pos f = { p with engine, journal }.apply pos f.formula.format g := by
  rw [answer]
  dsimp only [addLine]
  rw [heval]
  exact ⟨_, rfl⟩

end Pass

end SheetTemplate
