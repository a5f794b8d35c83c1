import SheetTemplate.Proofs.BookRun

namespace SheetTemplate

theorem Canvas.extent?_fill_eq (t : Canvas) {done : List Answer} (h : t.sheet.OpenedBy done) :
    (t.fill done).sheet.extent? = t.sheet.extent?.map (·.grow done) := by
  cases harea : t.sheet.extent? with
  | some a => exact extent?_fill t h harea
  | none =>
    have hnil : done = [] := by
      have hslots := Sheet.slots_of_no_extent harea
      unfold Sheet.OpenedBy at h
      rwa [hslots, List.prefix_nil, List.map_eq_nil_iff] at h
    rw [hnil, fill_nil, harea]
    rfl

/-- At every point between the formulas of a pass its extent is that of its sheet. After a render
that succeeds every sheet has grown, and every count has, by the sums over the answers. -/
theorem render_extents {σ : Type} [Evaluator σ] :
    (∀ (r : Rendering σ) (s : Sheet) (area : Area) (p : Pass MergeCache σ) (c : CellRef),
      s.extent? = some area →
      Pass.Reaches (r.startPass MergeCache s area) area.topLeft p c →
      p.sheet.extent? = some p.area) ∧
    ∀ (book : Workbook) (engine : σ) (r : Rendering σ), render book engine = (.ok (), r) →
      ∃ parts : List Part, parts.map (·.template) = book.sheets ∧ (∀ q ∈ parts, q.Complete) ∧
        Answered engine (allAnswers parts) r.engine ∧
        List.Forall₂ (fun q s => s.extent? = q.template.extent?.map (·.grow q.answers))
          parts r.book.sheets ∧
        r.stats =
          { sheets := book.sheets.length
            formulas := (allAnswers parts).length
            rowsInserted := Layout.total .row (allAnswers parts)
            colsInserted := Layout.total .column (allAnswers parts) } := by
  constructor
  · intro r s area p c harea hreach
    obtain ⟨done, hprogress, -⟩ := hreach.progress harea
      (Rendering.progress_startPass MergeCache r s area) (Pass.clear_start harea)
    exact hprogress.extent harea
  · intro book engine r h
    obtain ⟨parts, progress⟩ := render_progress h
    obtain ⟨htemplates, hsheets⟩ := progress.finished
    refine ⟨parts, htemplates, progress.complete, progress.answered, ?_, ?_⟩
    · rw [hsheets]
      apply forall₂_fillParts
      intro q hq styles
      exact Canvas.extent?_fill_eq ⟨q.template, styles⟩ (progress.complete q hq).openedBy
    · rw [progress.stats]
      have hlength : book.sheets.length = parts.length := by
        rw [show book.sheets = _ from htemplates.symm, List.length_map]
      simp only [RenderStats.count, hlength, Nat.zero_add]

theorem render_extents_sample :
    (∃ p c, Pass.Reaches
        (({ book := sampleBook, engine := ⟨[sampleGrid]⟩ } : Rendering Prepared).startPass
          MergeCache sampleSheet ⟨0, 0, 1, 1⟩) ⟨0, 0⟩ p c ∧
        p.stats.formulas = 1 ∧ p.area = ⟨0, 0, 2, 2⟩ ∧ p.sheet.extent? = some p.area) ∧
      ∃ parts : List Part, parts.map (·.template) = sampleBook.sheets ∧
        (∀ q ∈ parts, q.Complete) ∧
        Answered (⟨[sampleGrid, sampleGrid]⟩ : Prepared) (allAnswers parts) ⟨[]⟩ ∧
        List.Forall₂ (fun q s => s.extent? = q.template.extent?.map (·.grow q.answers)) parts
          (render sampleBook (⟨[sampleGrid, sampleGrid]⟩ : Prepared)).2.book.sheets ∧
        (⟨1, 2, 2, 2⟩ : RenderStats) =
          { sheets := sampleBook.sheets.length
            formulas := (allAnswers parts).length
            rowsInserted := Layout.total .row (allAnswers parts)
            colsInserted := Layout.total .column (allAnswers parts) } := by
  constructor
  · have hreach : ∃ p c, Pass.Reaches
        (({ book := sampleBook, engine := ⟨[sampleGrid]⟩ } : Rendering Prepared).startPass
          MergeCache sampleSheet ⟨0, 0, 1, 1⟩) ⟨0, 0⟩ p c ∧
        p.stats.formulas = 1 ∧ p.area = ⟨0, 0, 2, 2⟩ :=
      ⟨_, _, .step .start (.answer (by rfl) (by rfl)), by rfl, by rfl⟩
    obtain ⟨p, c, hreach, hformulas, harea⟩ := hreach
    exact ⟨p, c, hreach, hformulas, harea,
      render_extents.1 _ sampleSheet ⟨0, 0, 1, 1⟩ p c (by decide) hreach⟩
  · exact render_extents.2 sampleBook ⟨[sampleGrid, sampleGrid]⟩
      (render sampleBook (⟨[sampleGrid, sampleGrid]⟩ : Prepared)).2 (by rfl)

end SheetTemplate
