import SheetTemplate.Proofs.BookRun

namespace SheetTemplate

namespace Style

/-- The same style, in which the size of the font may be another float that counts as equal, as 0
and -0 do. -/
structure Same (a b : Style) : Prop where
  rest : a = { b with font.size := a.font.size }
  size : a.font.size = b.font.size ∨ (a.font.size == b.font.size) = true

variable {a b : Style}

theorem Same.refl (a : Style) : a.Same a := ⟨rfl, .inl rfl⟩

theorem Same.of_beq (h : (a == b) = true) : a.Same b := by
  obtain ⟨⟨bold, italic, name, size, color⟩, fill, border, alignment, protection, places, format⟩ :=
    a
  obtain ⟨⟨bold', italic', name', size', color'⟩, fill', border', alignment', protection', places',
    format'⟩ := b
  change instBEqStyle.beq _ _ = true at h
  unfold instBEqStyle.beq at h
  rw [Bool.and_eq_true] at h
  obtain ⟨hfont, hrest⟩ := h
  change instBEqFont.beq _ _ = true at hfont
  unfold instBEqFont.beq at hfont
  simp only [Bool.and_eq_true, beq_iff_eq] at hfont hrest
  obtain ⟨rfl, rfl, rfl, hsize, rfl⟩ := hfont
  obtain ⟨rfl, rfl, rfl, rfl, rfl, rfl⟩ := hrest
  exact ⟨rfl, .inr hsize⟩

end Style

theorem Workbook.addToTable_same (styles : List Style) (s : Style) :
    ∃ style, (addToTable styles s).2[(addToTable styles s).1]? = some style ∧ style.Same s := by
  rw [Canvas.addToTable_eq]
  obtain ⟨style, hstyle, rfl | heq⟩ := getElem?_intern styles s
  · exact ⟨style, hstyle, .refl style⟩
  · exact ⟨style, hstyle, .of_beq heq⟩

namespace Canvas

variable {t : Canvas} {done : List Answer} {a b : Answer} {pos x : CellRef} {style source : Style}
  {r c : Nat}

def Wears (t : Canvas) (x : CellRef) (style : Style) : Prop :=
  ∃ cell shown, t.sheet.cells[x]? = some cell ∧ t.styles[cell.style]? = some shown ∧
    shown.Same style

theorem Wears.mono {styles : List Style} (h : t.Wears x style) (hstyles : t.styles <+: styles) :
    (⟨t.sheet, styles⟩ : Canvas).Wears x style := by
  obtain ⟨cell, shown, hcell, hshown, hsame⟩ := h
  exact ⟨cell, shown, hcell, getElem?_kept hstyles hshown, hsame⟩

/-- Earlier answers keep their styles when one more is written. -/
theorem Wears.answer (h : t.Wears (Layout.item done b r c) style)
    (hafter : ∀ b ∈ done, b.pos.Before a.pos) (hb : b ∈ done) (hr : r < b.grid.height)
    (hc : c < b.grid.width) :
    (t.answer (Layout.move done a.pos) a).Wears (Layout.item (done ++ [a]) b r c) style := by
  obtain ⟨cell, shown, hcell, hshown, hsame⟩ := h
  refine ⟨cell.giveWay (Layout.move done a.pos) a.grid, shown, ?_, ?_, hsame⟩
  · refine (Layout.getElem?_item_concat hafter hb hr hc).trans ?_
    rw [hcell, Option.map_some]
  · rw [Cell.style_giveWay]
    exact getElem?_kept (prefix_answer ..) hshown

theorem wears_answer (t : Canvas) (pos : CellRef) (hr : r < a.grid.height)
    (hc : c < a.grid.width) :
    (t.answer pos a).Wears (pos.offset c r)
      ((t.styles[t.sheet.styleAt pos]?.getD {}).withDisplayFormat
        a.formula.format.displayFormat) := by
  obtain ⟨shown, hshown, hsame⟩ := Workbook.addToTable_same t.styles
    ((t.styles[t.sheet.styleAt pos]?.getD {}).withDisplayFormat a.formula.format.displayFormat)
  exact ⟨_, shown, Sheet.getElem?_put_offset hr hc, hshown, hsame⟩

/-- The items of an answer keep the style that the formula had when it was answered. -/
theorem wears_fill_getD (t : Canvas) (h : t.sheet.OpenedBy done) :
    ∀ a ∈ done, ∃ front, t.sheet.OpenedBy (front ++ [a]) ∧
      ∀ r < a.grid.height, ∀ c < a.grid.width, (t.fill done).Wears (Layout.item done a r c)
        (((t.fill front).styles[(t.fill front).sheet.styleAt (Layout.move front a.pos)]?.getD
          {}).withDisplayFormat a.formula.format.displayFormat) := by
  induction done using List.reverseRecOn with
  | nil =>
    rintro a ⟨⟩
  | append_singleton done a ih =>
    have hafter : ∀ b ∈ done, b.pos.Before a.pos := fun b hb => h.before_last hb
    intro b hb
    rcases List.mem_append.1 hb with hb | hb
    · obtain ⟨front, hfront, hitems⟩ := ih h.of_concat b hb
      refine ⟨front, hfront, ?_⟩
      intro r hr c hc
      rw [fill_concat]
      exact (hitems r hr c hc).answer hafter hb hr hc
    · obtain rfl := List.mem_singleton.1 hb
      refine ⟨done, h, ?_⟩
      intro r hr c hc
      rw [fill_concat, Layout.item_last hafter]
      exact wears_answer _ _ hr hc

/-- When an answer is written, the style of its formula is still the one of the template. -/
theorem wears_fill (t : Canvas) {styles : List Style} (hkept : styles <+: t.styles)
    (hstyles : ∀ (c : CellRef) (cell : Cell), t.sheet.cells[c]? = some cell →
      cell.style < styles.length)
    (h : t.sheet.OpenedBy done) :
    ∀ a ∈ done, ∃ cell source, t.sheet.cells[a.pos]? = some cell ∧
      styles[cell.style]? = some source ∧ ∀ r < a.grid.height, ∀ c < a.grid.width,
        (t.fill done).Wears (Layout.item done a r c)
          { source with numberFormat := .ofCode a.formula.format.displayFormat } := by
  intro a ha
  obtain ⟨front, hfront, hitems⟩ := t.wears_fill_getD h a ha
  obtain ⟨cell, hcell, htext, -⟩ := Sheet.mem_slots.1
    (hfront.mem_slots (List.mem_append_right _ List.mem_cons_self))
  obtain ⟨source, hsource⟩ : ∃ source, styles[cell.style]? = some source :=
    ⟨_, List.getElem?_eq_getElem (hstyles a.pos cell hcell)⟩
  have hmoved := (t.laid_fill hfront.of_concat).pending hcell htext
    fun b hb => (hfront.before_last hb).ne
  have hlooked : (t.fill front).styles[
      (t.fill front).sheet.styleAt (Layout.move front a.pos)]? = some source := by
    rw [Sheet.styleAt, Sheet.cellAt_eq_of_getElem? hmoved]
    exact getElem?_kept (hkept.trans (t.prefix_fill front)) hsource
  rw [hlooked, Option.getD_some] at hitems
  exact ⟨cell, source, hcell, hsource, hitems⟩

end Canvas

/-- The styles in the place of a template all of whose formulas are answered. -/
structure Styled (before after : List Style) (q : Part) (s : Sheet) : Prop where
  /-- All items of an answer have the style of the formula, with the number format of the spec. -/
  items : ∀ a ∈ q.answers, ∃ cell source, q.template.cells[a.pos]? = some cell ∧
    before[cell.style]? = some source ∧ ∀ r < a.grid.height, ∀ c < a.grid.width,
      (⟨s, after⟩ : Canvas).Wears (Layout.item q.answers a r c)
        { source with numberFormat := .ofCode a.formula.format.displayFormat }
  /-- Other cells refer to the same place of the table as before. -/
  others : ∀ c cell, q.template.cells[c]? = some cell → (∀ a ∈ q.answers, a.pos ≠ c) →
    ∃ value, s.cells[Layout.move q.answers c]? = some ⟨value, cell.style⟩
  only : ∀ x ∈ s.cells,
    (∃ c ∈ q.template.cells, (∀ a ∈ q.answers, a.pos ≠ c) ∧ Layout.move q.answers c = x) ∨
      ∃ a ∈ q.answers, ∃ r < a.grid.height, ∃ c < a.grid.width, Layout.item q.answers a r c = x

theorem Styled.mono {before after after' : List Style} {q : Part} {s : Sheet}
    (h : Styled before after q s) (hafter : after <+: after') : Styled before after' q s := by
  refine { h with items := ?_ }
  intro a ha
  obtain ⟨cell, source, hcell, hsource, hitems⟩ := h.items a ha
  refine ⟨cell, source, hcell, hsource, ?_⟩
  intro r hr c hc
  exact (hitems r hr c hc).mono hafter

theorem styled_fill {q : Part} {styles styles' : List Style} (hq : q.Complete)
    (hkept : styles <+: styles')
    (hstyles : ∀ (c : CellRef) (cell : Cell), q.template.cells[c]? = some cell →
      cell.style < styles.length) :
    Styled styles ((⟨q.template, styles'⟩ : Canvas).fill q.answers).styles q
      ((⟨q.template, styles'⟩ : Canvas).fill q.answers).sheet := by
  have hlaid := Canvas.laid_fill ⟨q.template, styles'⟩ hq.openedBy
  constructor
  case items => exact Canvas.wears_fill ⟨q.template, styles'⟩ hkept hstyles hq.openedBy
  case others =>
    intro c cell hcell hc
    refine ⟨(cell.follow q.answers).value, ?_⟩
    rw [hlaid.moved c cell hcell hc, ← cell.style_follow q.answers]
  case only => exact hlaid.stored

theorem styled_fillParts {styles : List Style} {parts : List Part}
    (hcomplete : ∀ q ∈ parts, q.Complete)
    (hstyles : ∀ q ∈ parts, ∀ (c : CellRef) (cell : Cell), q.template.cells[c]? = some cell →
      cell.style < styles.length) :
    List.Forall₂ (Styled styles (fillParts styles parts).2) parts (fillParts styles parts).1 := by
  induction parts using List.reverseRecOn with
  | nil => exact .nil
  | append_singleton parts q ih =>
    have hlast : q ∈ parts ++ [q] := List.mem_append_right _ List.mem_cons_self
    have hparts := ih (fun q hq => hcomplete q (List.mem_append_left _ hq))
      fun q hq => hstyles q (List.mem_append_left _ hq)
    have hgrows := Canvas.prefix_fill ⟨q.template, (fillParts styles parts).2⟩ q.answers
    rw [fillParts_concat]
    refine List.rel_append ?_ (.cons ?_ .nil)
    · exact hparts.imp fun _ _ h => h.mono hgrows
    · exact styled_fill (hcomplete q hlast) (prefix_fillParts styles parts) (hstyles q hlast)

/-- After a render that succeeds the items of all answers have the styles of their formulas, apart
from the number format. No other cell gets another style, and the table keeps its entries. -/
theorem render_styled {σ : Type} [Evaluator σ] {book : Workbook} {engine : σ} {r : Rendering σ}
    (hstyles : ∀ s ∈ book.sheets, ∀ (pos : CellRef) (cell : Cell), s.cells[pos]? = some cell →
      cell.style < book.styles.length)
    (h : render book engine = (.ok (), r)) :
    book.styles <+: r.book.styles ∧
      ∃ parts : List Part, parts.map (·.template) = book.sheets ∧ (∀ q ∈ parts, q.Complete) ∧
        Answered engine (allAnswers parts) r.engine ∧
        List.Forall₂ (Styled book.styles r.book.styles) parts r.book.sheets := by
  obtain ⟨parts, progress⟩ := render_progress h
  obtain ⟨htemplates, hsheets⟩ := progress.finished
  have hcells : ∀ q ∈ parts, ∀ (c : CellRef) (cell : Cell), q.template.cells[c]? = some cell →
      cell.style < book.styles.length := by
    intro q hq
    apply hstyles
    rw [← show _ = book.sheets from htemplates]
    exact List.mem_map_of_mem hq
  rw [hsheets, progress.styles]
  exact ⟨prefix_fillParts book.styles parts, parts, htemplates, progress.complete,
    progress.answered, styled_fillParts progress.complete hcells⟩

def boldBook : Workbook where
  sheets := [sampleSheet.setStyleAt 1 ⟨0, 0⟩]
  styles := [{}, { font.bold := true, numberFormat := .builtin 14 }]

theorem render_styled_sample :
    boldBook.styles <+: (render boldBook (⟨[sampleGrid, sampleGrid]⟩ : Prepared)).2.book.styles ∧
      (render boldBook (⟨[sampleGrid, sampleGrid]⟩ : Prepared)).2.book.styles.length = 3 ∧
      ∃ parts : List Part, parts.map (·.template) = boldBook.sheets ∧ (∀ q ∈ parts, q.Complete) ∧
        Answered (⟨[sampleGrid, sampleGrid]⟩ : Prepared) (allAnswers parts) ⟨[]⟩ ∧
        List.Forall₂ (Styled boldBook.styles
          (render boldBook (⟨[sampleGrid, sampleGrid]⟩ : Prepared)).2.book.styles) parts
          (render boldBook (⟨[sampleGrid, sampleGrid]⟩ : Prepared)).2.book.sheets := by
  have hstyles : ∀ s ∈ boldBook.sheets, ∀ (pos : CellRef) (cell : Cell),
      s.cells[pos]? = some cell → cell.style < boldBook.styles.length := by
    intro s hs pos cell hcell
    obtain rfl := List.mem_singleton.1 hs
    have hall : ∀ x ∈ (sampleSheet.setStyleAt 1 ⟨0, 0⟩).cells.toList,
        x.2.style < boldBook.styles.length := by decide
    exact hall (pos, cell) (Std.TreeMap.mem_toList_iff_getElem?_eq_some.2 hcell)
  have hrender : render boldBook (⟨[sampleGrid, sampleGrid]⟩ : Prepared) =
      (.ok (), (render boldBook (⟨[sampleGrid, sampleGrid]⟩ : Prepared)).2) := by rfl
  obtain ⟨hkept, hparts⟩ := render_styled hstyles hrender
  exact ⟨hkept, by rfl, hparts⟩

end SheetTemplate
