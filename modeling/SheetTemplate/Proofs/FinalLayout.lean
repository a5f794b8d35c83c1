import SheetTemplate.Proofs.BookRun

namespace SheetTemplate

/-- What is stored in the place of a template all of whose formulas are answered. -/
structure FinalLayout (q : Part) (s : Sheet) : Prop where
  name : s.name = q.template.name
  /-- Other cells keep their styles and, up to the texts of native formulas, their values. -/
  kept : ∀ c cell, q.template.cells[c]? = some cell → (∀ a ∈ q.answers, a.pos ≠ c) →
    ∃ v, cell.value.Alike v ∧ s.cells[Layout.move q.answers c]? = some ⟨v, cell.style⟩
  items : ∀ a ∈ q.answers, ∀ r < a.grid.height, ∀ c < a.grid.width,
    ∃ style, s.cells[Layout.item q.answers a r c]? = some ⟨a.valueAt r c, style⟩
  only : ∀ x ∈ s.cells,
    (∃ c ∈ q.template.cells, (∀ a ∈ q.answers, a.pos ≠ c) ∧ Layout.move q.answers c = x) ∨
      ∃ a ∈ q.answers, ∃ r < a.grid.height, ∃ c < a.grid.width, Layout.item q.answers a r c = x
  /-- No two of these cells come to lie in one place. -/
  move_inj : ∀ c d, Layout.move q.answers c = Layout.move q.answers d → c = d
  item_inj : ∀ a ∈ q.answers, ∀ r < a.grid.height, ∀ c < a.grid.width,
    ∀ b ∈ q.answers, ∀ k < b.grid.height, ∀ l < b.grid.width,
    Layout.item q.answers a r c = Layout.item q.answers b k l → a = b ∧ r = k ∧ c = l
  item_ne_move : ∀ a ∈ q.answers, ∀ r < a.grid.height, ∀ c < a.grid.width,
    ∀ d, (∀ b ∈ q.answers, b.pos ≠ d) → Layout.item q.answers a r c ≠ Layout.move q.answers d

theorem finalLayout_of_laid {q : Part} {s : Sheet} (hq : q.Complete)
    (h : Layout.Laid q.template q.answers s) : FinalLayout q s := by
  constructor
  case name => exact h.name
  case kept =>
    intro c cell hcell hc
    refine ⟨(cell.follow q.answers).value, cell.alike_follow q.answers, ?_⟩
    rw [h.moved c cell hcell hc, ← cell.style_follow q.answers]
  case items => exact h.items
  case only => exact h.stored
  case move_inj =>
    intro c d hcd
    exact Layout.move_inj.1 hcd
  case item_inj =>
    intro a ha r hr c hc b hb k hk l hl heq
    have hpos := Layout.pos_eq_of_item_eq_item ha hb hr hc hk hl heq
    obtain rfl := hq.openedBy.eq_of_pos_eq ha hb hpos
    exact ⟨rfl, Layout.item_inj.1 heq⟩
  case item_ne_move =>
    intro a ha r hr c hc d hd heq
    exact hd a ha (Layout.pos_eq_of_item_eq_move ha hr hc heq)

/-- After a render that succeeds every sheet has the final layout of its template, whose formulas
were answered by the engine in their order. -/
theorem render_finalLayout {σ : Type} [Evaluator σ] {book : Workbook} {engine : σ}
    {r : Rendering σ} (h : render book engine = (.ok (), r)) :
    ∃ parts : List Part, parts.map (·.template) = book.sheets ∧ (∀ q ∈ parts, q.Complete) ∧
      Answered engine (allAnswers parts) r.engine ∧
      List.Forall₂ FinalLayout parts r.book.sheets := by
  obtain ⟨parts, progress⟩ := render_progress h
  obtain ⟨htemplates, hsheets⟩ := progress.finished
  refine ⟨parts, htemplates, progress.complete, progress.answered, ?_⟩
  rw [hsheets]
  apply forall₂_fillParts
  intro q hq styles
  have hcomplete := progress.complete q hq
  exact finalLayout_of_laid hcomplete (Canvas.laid_fill ⟨q.template, styles⟩ hcomplete.openedBy)

theorem render_finalLayout_sample :
    ∃ parts : List Part, parts.map (·.template) = sampleBook.sheets ∧ (∀ q ∈ parts, q.Complete) ∧
      Answered (⟨[sampleGrid, sampleGrid]⟩ : Prepared) (allAnswers parts) ⟨[]⟩ ∧
      List.Forall₂ FinalLayout parts
        (render sampleBook (⟨[sampleGrid, sampleGrid]⟩ : Prepared)).2.book.sheets :=
  render_finalLayout (r := (render sampleBook (⟨[sampleGrid, sampleGrid]⟩ : Prepared)).2)
    (show render sampleBook _ = (.ok (), _) by rfl)

end SheetTemplate
