import SheetTemplate.Proofs.ShownFormats
import SheetTemplate.Proofs.StableRounding
import SheetTemplate.Proofs.Styling

namespace SheetTemplate

open Number

/-- The cell has the value, in the number format of the spec. -/
structure InFormat (styles : List Style) (s : Sheet) (x : CellRef) (v : CellValue)
    (f : FormatSpec) : Prop where
  value : s.valueAt x = v
  format : ∃ style, styles[s.styleAt x]? = some style ∧
    style.numberFormat = .ofCode f.displayFormat

theorem InFormat.mono {styles styles' : List Style} {s : Sheet} {x : CellRef} {v : CellValue}
    {f : FormatSpec} (h : InFormat styles s x v f) (hstyles : styles <+: styles') :
    InFormat styles' s x v f := by
  obtain ⟨hvalue, style, hstyle, hformat⟩ := h
  exact ⟨hvalue, style, getElem?_kept hstyles hstyle, hformat⟩

namespace Canvas

variable {done : List Answer} {a : Answer} {r c : Nat}

theorem inFormat_fill (t : Canvas) (h : t.sheet.OpenedBy done) (ha : a ∈ done)
    (hr : r < a.grid.height) (hc : c < a.grid.width) :
    InFormat (t.fill done).styles (t.fill done).sheet (Layout.item done a r c) (a.valueAt r c)
      a.formula.format := by
  obtain ⟨id, hitem⟩ := (t.laid_fill h).items a ha r hr c hc
  obtain ⟨front, -, hitems⟩ := t.wears_fill_getD h a ha
  obtain ⟨cell, shown, hcell, hshown, hsame⟩ := hitems r hr c hc
  obtain rfl := Option.some.inj (hcell.symm.trans hitem)
  have hat := Sheet.cellAt_eq_of_getElem? hitem
  refine ⟨congrArg Cell.value hat, shown, ?_, congrArg Style.numberFormat hsame.rest⟩
  rw [Sheet.styleAt, hat]
  exact hshown

end Canvas

def ItemsInFormat (styles : List Style) (q : Part) (s : Sheet) : Prop :=
  ∀ a ∈ q.answers, ∀ r < a.grid.height, ∀ c < a.grid.width,
    InFormat styles s (Layout.item q.answers a r c) (a.valueAt r c) a.formula.format

theorem itemsInFormat_fillParts {styles : List Style} {parts : List Part}
    (hcomplete : ∀ q ∈ parts, q.Complete) :
    List.Forall₂ (ItemsInFormat (fillParts styles parts).2) parts (fillParts styles parts).1 := by
  induction parts using List.reverseRecOn with
  | nil => exact .nil
  | append_singleton parts q ih =>
    have hq := hcomplete q (List.mem_append_right _ List.mem_cons_self)
    have hparts := ih fun q hq => hcomplete q (List.mem_append_left _ hq)
    have hgrows := Canvas.prefix_fill ⟨q.template, (fillParts styles parts).2⟩ q.answers
    rw [fillParts_concat]
    refine List.rel_append (hparts.imp fun _ _ h a ha r hr c hc => ?_) (.cons ?_ .nil)
    · exact (h a ha r hr c hc).mono hgrows
    · intro a ha r hr c hc
      exact Canvas.inFormat_fill ⟨q.template, _⟩ hq.openedBy ha hr hc

theorem ofScalar?_float {f : FormatSpec} (hkind : f.kind = .float) (x : Float) :
    CellValue.ofScalar? f (.float x) = some (.float (roundTo f.resolvedPrecision x)) := by
  rw [CellValue.ofScalar?, FormatSpec.storedDecimals?, hkind]
  rfl

/-- A cell that a decimal formula writes shows its number rounded once. -/
theorem InFormat.cellText {book : Workbook} {s : Sheet} {c : CellRef} {v : CellValue}
    {f : FormatSpec} {x : Float} (h : InFormat book.styles s c v f) (hkind : f.kind = .float)
    (hx : isFinite x = true) (hv : CellValue.ofScalar? f (.float x) = some v) :
    Preview.cellText book s c = placesText f.resolvedPrecision x := by
  obtain ⟨hvalue, style, hstyle, hformat⟩ := h
  obtain rfl := Option.some.inj ((ofScalar?_float hkind x).symm.trans hv)
  rw [Preview.cellText_float hstyle hformat hkind hvalue (roundTo_of_finite hx _).1,
    placesText_roundTo]

/-- The finite numbers of all decimal formulas of a template are seen rounded once. -/
def NumbersShown (book : Workbook) (q : Part) (s : Sheet) : Prop :=
  ∀ a ∈ q.answers, a.formula.format.kind = .float → ∀ r c x, a.grid.get? r c = some (.float x) →
    isFinite x = true →
      Preview.cellText book s (Layout.item q.answers a r c) =
        placesText a.formula.format.resolvedPrecision x

theorem ItemsInFormat.numbersShown {book : Workbook} {q : Part} {s : Sheet}
    (h : ItemsInFormat book.styles q s) : NumbersShown book q s := by
  intro a ha hkind r c x hget hx
  obtain ⟨hr, hc⟩ := Grid.lt_of_get? hget
  refine (h a ha r hr c hc).cellText hkind hx ?_
  rw [Answer.valueAt, Grid.written, hget, Option.bind_some, ofScalar?_float hkind, Option.getD_some]

/-- Rounding to `d` places, showing `d` places and reading what is shown agree. -/
structure StablyRounded (d : Nat) (x : Float) : Prop where
  finite : isFinite (roundTo d x) = true
  shows : Shows d x (placesText d x)
  read : readFloat? (placesText d x).toList = some (roundTo d x)
  text : placesText d (roundTo d x) = placesText d x
  again : roundTo d (roundTo d x) = roundTo d x

theorem stablyRounded {x : Float} (hx : isFinite x = true) (d : Nat) : StablyRounded d x where
  finite := (roundTo_of_finite hx d).1
  shows := shows_placesText hx d
  read := readFloat?_placesText hx d
  text := placesText_roundTo d x
  again := roundTo_roundTo d x

/-- Rounding is stable, and so the numbers of decimal formulas are seen rounded once, in a cell of
any book and in all cells of a render that succeeds. -/
theorem rounding_stable :
    (∀ x, isFinite x = true → ∀ d, StablyRounded d x) ∧
    (∀ (book : Workbook) (s : Sheet) (c : CellRef) (v : CellValue) (f : FormatSpec) (x : Float),
      InFormat book.styles s c v f → f.kind = .float → isFinite x = true →
        CellValue.ofScalar? f (.float x) = some v →
          Preview.cellText book s c = placesText f.resolvedPrecision x) ∧
    ∀ (σ : Type) [Evaluator σ] (book : Workbook) (engine : σ) (r : Rendering σ),
      render book engine = (.ok (), r) →
        ∃ parts : List Part, parts.map (·.template) = book.sheets ∧ (∀ q ∈ parts, q.Complete) ∧
          Answered engine (allAnswers parts) r.engine ∧
            List.Forall₂ (NumbersShown r.book) parts r.book.sheets := by
  refine ⟨fun x hx d => stablyRounded hx d, ?_, ?_⟩
  · intro book s c v f x h hkind hx hv
    exact h.cellText hkind hx hv
  · intro σ _ book engine r h
    obtain ⟨parts, progress⟩ := render_progress h
    obtain ⟨htemplates, hsheets⟩ := progress.finished
    refine ⟨parts, htemplates, progress.complete, progress.answered, ?_⟩
    rw [hsheets]
    refine (itemsInFormat_fillParts progress.complete).imp fun q s h => ?_
    rw [← show _ = (fillParts book.styles parts).2 from progress.styles] at h
    exact h.numbersShown

def numberSheet : Sheet :=
  ({ name := "Report" } : Sheet).setValue ⟨0, 0⟩ (.text "\x7b\x7bC(.2f)|[x]a\x7d\x7d")

def numberBook : Workbook := { sheets := [numberSheet] }

def numberGrid : Grid := .ofRows .float [[.float 2.675]]

def numberRender : Rendering Prepared := (render numberBook (⟨[numberGrid]⟩ : Prepared)).2

/-- The number is a little less than it seems to be. -/
theorem rounding_stable_number :
    StablyRounded 2 2.675 ∧
      numberRender.book.sheets.map (Preview.cellText numberRender.book · ⟨0, 0⟩) = ["2.67"] ∧
        ∃ parts : List Part, parts.map (·.template) = numberBook.sheets ∧
          (∀ q ∈ parts, q.Complete) ∧
            Answered (⟨[numberGrid]⟩ : Prepared) (allAnswers parts) numberRender.engine ∧
              List.Forall₂ (NumbersShown numberRender.book) parts numberRender.book.sheets := by
  have hfinite : isFinite 2.675 = true := by decide
  have hrender : render numberBook (⟨[numberGrid]⟩ : Prepared) = (.ok (), numberRender) := by rfl
  obtain ⟨hrounded, hcell, hbook⟩ := rounding_stable
  refine ⟨hrounded _ hfinite 2, ?_, hbook _ _ _ _ hrender⟩
  have hsheets : ∃ s, numberRender.book.sheets = [s] ∧
      InFormat numberRender.book.styles s ⟨0, 0⟩ (.float (roundTo 2 2.675)) ⟨.float, 2⟩ :=
    ⟨_, by rfl, by rfl, _, by rfl, by rfl⟩
  obtain ⟨s, hs, hformat⟩ := hsheets
  rw [hs, List.map_singleton, hcell _ _ _ _ _ _ hformat rfl hfinite (by rfl)]
  rfl

end SheetTemplate
