import SheetTemplate.Proofs.BookRun

namespace SheetTemplate

/-- The render of a book has stopped at formula `f`, which the engine refuses: the sheets of `parts`
are rendered, that of `q` is now `s`, rendered up to `f`, and those of `later` are as they were. -/
structure Interrupted {σ : Type} [Evaluator σ] (book : Workbook) (engine : σ) (parts : List Part)
    (q : Part) (s : Sheet) (f : Slot) (pending : List Slot) (later : List Sheet) (e : EngineError)
    (r : Rendering σ) : Prop where
  templates : book.sheets = parts.map (·.template) ++ q.template :: later
  complete : ∀ p ∈ parts, p.Complete
  split : q.template.slots = q.answers.map Answer.toSlot ++ f :: pending
  eval : ∃ engine', Answered engine (allAnswers (parts ++ [q])) engine' ∧
    Evaluator.evaluate f.formula engine' = (.error e, r.engine)
  sheets : r.book.sheets = (fillParts book.styles parts).1 ++ s :: later
  /-- Whole answers are written to the sheet, and nothing else. -/
  filled : (⟨s, r.book.styles⟩ : Canvas) =
    (⟨q.template, (fillParts book.styles parts).2⟩ : Canvas).fill q.answers
  /-- The cells of the formulas that are left have moved, and nothing else has become of them. -/
  unchanged : ∀ x ∈ f :: pending, ∃ cell, q.template.cells[x.pos]? = some cell ∧
    cell.value = .text x.text ∧ s.cells[Layout.move q.answers x.pos]? = some cell

/-- A render of a book whose cells have styles of the table fails by its engine only, and leaves
whole answers behind. -/
theorem render_interrupted {σ : Type} [Evaluator σ] {book : Workbook} {engine : σ}
    {e : SheetError} {r : Rendering σ}
    (hstyles : ∀ s ∈ book.sheets, ∀ (pos : CellRef) (cell : Cell), s.cells[pos]? = some cell →
      cell.style < book.styles.length)
    (h : render book engine = (.error e, r)) :
    ∃ parts q s f pending later err, e = .engine err ∧
      Interrupted book engine parts q s f pending later err r := by
  cases render_ending h with
  | @refused parts q later f pending err engine' _ templates complete split answered eval sheets
      styles =>
    rw [fillParts_concat] at sheets styles
    refine ⟨parts, q,
      ((⟨q.template, (fillParts book.styles parts).2⟩ : Canvas).fill q.answers).sheet, f, pending,
      later, err, rfl, ?_⟩
    constructor
    case templates => exact templates
    case complete => exact complete
    case split => exact split
    case eval => exact ⟨engine', answered, eval⟩
    case sheets =>
      rw [List.append_assoc] at sheets
      exact sheets
    case filled => rw [styles]
    case unchanged =>
      intro x hx
      have hslot : x ∈ q.template.slots := by
        rw [split]
        exact List.mem_append_right _ hx
      obtain ⟨cell, hcell, htext, -⟩ := Sheet.mem_slots.1 hslot
      have hopened : q.template.OpenedBy q.answers := ⟨_, split.symm⟩
      have hlaid := Canvas.laid_fill ⟨q.template, (fillParts book.styles parts).2⟩ hopened
      refine ⟨cell, hcell, htext, hlaid.pending hcell htext ?_⟩
      -- The formulas that are left stand behind those that are answered.
      intro a ha
      have hsorted := q.template.slots_pairwise
      rw [split, List.pairwise_append] at hsorted
      exact (hsorted.2.2 a.toSlot (List.mem_map_of_mem ha) x hx).ne
  | @unstyled parts q later f pending cell g _ _ templates _ _ _ _ stored style =>
    have hmem : q.template ∈ book.sheets := by simp [show book.sheets = _ from templates]
    have hlt := hstyles q.template hmem f.pos cell stored
    have hle := length_styles_fillParts book.styles (parts ++ [q])
    rw [List.getElem?_eq_none_iff] at style
    exact absurd (Nat.lt_of_lt_of_le hlt hle) (Nat.not_lt.2 style)

theorem render_interrupted_sample :
    ∃ parts q s f pending later err,
      SheetError.engine .wrongCodeFormat = .engine err ∧
        Interrupted sampleBook (⟨[sampleGrid]⟩ : Prepared) parts q s f pending later err
          (render sampleBook (⟨[sampleGrid]⟩ : Prepared)).2 := by
  refine render_interrupted (e := .engine .wrongCodeFormat) ?_ (by rfl)
  intro s hs pos cell hcell
  obtain rfl := List.mem_singleton.1 hs
  have hall : ∀ x ∈ sampleSheet.cells.toList, x.2.style < sampleBook.styles.length := by decide
  exact hall (pos, cell) (Std.TreeMap.mem_toList_iff_getElem?_eq_some.2 hcell)

end SheetTemplate
