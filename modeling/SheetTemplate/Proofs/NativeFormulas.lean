import SheetTemplate.Proofs.FinalLayout
import SheetTemplate.Proofs.Relocation

namespace SheetTemplate

open Piece

theorem CellRef.grows_giveWay (pos : CellRef) (g : Grid) : Grows (giveWay · pos g) :=
  (grows_shift .column (pos.col + 1) (g.width - 1)).comp
    (grows_shift .row (pos.row + 1) (g.height - 1))

theorem Layout.grows_move (done : List Answer) : CellRef.Grows (move done) := by
  intro c axis
  cases axis <;> exact Nat.le_add_right _ _

namespace Cell

variable {f : CellRef → CellRef} {c : Cell} {done : List Answer}

theorem giveWay_relocate (h : c.Rereads f) (hf : CellRef.Grows f) (pos : CellRef) (g : Grid)
    (hw : ∀ d, c.value.Refers d → ((f d).giveWay pos g).Writable) :
    (c.relocate f).giveWay pos g = c.relocate ((CellRef.giveWay · pos g) ∘ f) ∧
      c.Rereads ((CellRef.giveWay · pos g) ∘ f) := by
  have hrows := CellRef.grows_shift .row (pos.row + 1) (g.height - 1)
  have hcols := CellRef.grows_shift .column (pos.col + 1) (g.width - 1)
  obtain ⟨hrow, hrereads⟩ := carry_relocate h hf fun d hd => hcols.writable (hw d hd)
  obtain ⟨hcol, hrereads⟩ := carry_relocate hrereads (hrows.comp hf) hw
  rw [giveWay, hrow, hcol]
  exact ⟨rfl, hrereads⟩

/-- The answers, written one after the other, take a native formula along the layout. -/
theorem follow_eq_relocate (hw : ∀ d, c.value.Refers d → (Layout.move done d).Writable) :
    c.follow done = c.relocate (Layout.move done) ∧ c.Rereads (Layout.move done) := by
  induction done using List.reverseRecOn with
  | nil => exact ⟨c.relocate_id.symm, c.rereads_id⟩
  | append_singleton done a ih =>
    have hmove : Layout.move (done ++ [a]) =
        (CellRef.giveWay · (Layout.move done a.pos) a.grid) ∘ Layout.move done :=
      funext fun d => Layout.move_concat done a d
    rw [hmove] at hw ⊢
    obtain ⟨hfollow, hrereads⟩ := ih fun d hd => (CellRef.grows_giveWay _ _).writable (hw d hd)
    rw [follow_concat, hfollow]
    exact giveWay_relocate hrereads (Layout.grows_move done) _ _ hw

end Cell

/-- What becomes of a piece when cells go along `f`: other text stays, and a reference keeps its
dollar signs and denotes where its cell has gone. It is spelled anew only if the cell has moved. -/
inductive Piece.Denotes (f : CellRef → CellRef) : Piece → Piece → Prop where
  | other (w : List Char) : Denotes f (other w) (other w)
  | reference {t t' : RefToken} {c : CellRef}
    (colFixed : t'.colFixed = t.colFixed) (rowFixed : t'.rowFixed = t.rowFixed)
    (stays : f c = c → t' = t) (moves : f c ≠ c → t'.letters ++ t'.digits = (f c).toChars) :
    Denotes f (reference t c) (reference t' (f c))

theorem Piece.denotes_relocate (f : CellRef → CellRef) (p : Piece) :
    Denotes f p (p.relocate f) := by
  cases p with
  | other w => exact .other w
  | reference t c =>
    rw [relocate]
    split
    · rename_i hstays
      exact .reference rfl rfl (fun _ => rfl) fun hmoves => absurd hstays hmoves
    · rename_i hmoves
      exact .reference rfl rfl (fun hstays => absurd hstays hmoves) fun _ => rfl

/-- What becomes of the native formulas of a template all of whose formulas are answered. -/
structure NativeKept (q : Part) (s : Sheet) : Prop where
  /-- They are read as before, but every reference denotes where its cell has gone. -/
  formulas : ∀ (c : CellRef) (text : String) (style : Nat),
    q.template.cells[c]? = some ⟨.formula text, style⟩ →
    (∀ pre t d post, Occurs text.toList pre t d post → (Layout.move q.answers d).Writable) →
    ∃ text' : String, s.cells[Layout.move q.answers c]? = some ⟨.formula text', style⟩ ∧
      Reads text.toList (ofText text.toList) ∧ Reads text'.toList (ofText text'.toList) ∧
      List.Forall₂ (Denotes (Layout.move q.answers)) (ofText text.toList) (ofText text'.toList)
  targets : ∀ (d : CellRef) (cell : Cell), q.template.cells[d]? = some cell →
    (∀ a ∈ q.answers, a.pos ≠ d) →
    ∃ v, cell.value.Alike v ∧ s.cells[Layout.move q.answers d]? = some ⟨v, cell.style⟩
  /-- Where a formula has gone its answer begins. -/
  answers : ∀ a ∈ q.answers, ∃ style,
    s.cells[Layout.move q.answers a.pos]? = some ⟨a.valueAt 0 0, style⟩

theorem nativeKept_of_laid {q : Part} {s : Sheet} (hq : q.Complete)
    (h : Layout.Laid q.template q.answers s) : NativeKept q s := by
  have hlayout := finalLayout_of_laid hq h
  constructor
  case formulas =>
    intro c text style hcell hw
    -- An answered formula is spelled by a text cell.
    have hnew : ∀ a ∈ q.answers, a.pos ≠ c := by
      rintro a ha rfl
      obtain ⟨cell, hcell', htext, -⟩ := Sheet.mem_slots.1 (hq.openedBy.mem_slots ha)
      rw [hcell, Option.some.injEq] at hcell'
      rw [← hcell'] at htext
      cases htext
    have hwritable : ∀ d, (CellValue.formula text).Refers d →
        (Layout.move q.answers d).Writable := by
      rintro d ⟨_, pre, t, post, ⟨⟩, hoccurs⟩
      exact hw pre t d post hoccurs
    obtain ⟨hfollow, hrereads⟩ := Cell.follow_eq_relocate (c := ⟨.formula text, style⟩) hwritable
    have hmoved := h.moved c _ hcell hnew
    rw [hfollow] at hmoved
    refine ⟨_, hmoved, reads_ofText _, reads_ofText _, ?_⟩
    rw [hrereads text rfl, List.forall₂_map_right_iff, List.forall₂_same]
    exact fun p _ => denotes_relocate _ p
  case targets => exact hlayout.kept
  case answers =>
    intro a ha
    exact hlayout.items a ha 0 a.grid.height_pos 0 a.grid.width_pos

/-- After a render that succeeds the native formulas of every sheet refer to the same cells as in
its template, wherever these have gone. -/
theorem render_nativeKept {σ : Type} [Evaluator σ] {book : Workbook} {engine : σ}
    {r : Rendering σ} (h : render book engine = (.ok (), r)) :
    ∃ parts : List Part, parts.map (·.template) = book.sheets ∧ (∀ q ∈ parts, q.Complete) ∧
      Answered engine (allAnswers parts) r.engine ∧
      List.Forall₂ NativeKept parts r.book.sheets := by
  obtain ⟨parts, progress⟩ := render_progress h
  obtain ⟨htemplates, hsheets⟩ := progress.finished
  refine ⟨parts, htemplates, progress.complete, progress.answered, ?_⟩
  rw [hsheets]
  apply forall₂_fillParts
  intro q hq styles
  have hcomplete := progress.complete q hq
  exact nativeKept_of_laid hcomplete (Canvas.laid_fill ⟨q.template, styles⟩ hcomplete.openedBy)

def nativeBook : Workbook := { sheets := [nativeSample] }

/-- The one formula of the book is answered by the one grid of the engine. -/
theorem answers_nativeBook {q : Part} (htemplate : q.template = nativeSample) (hq : q.Complete)
    {engine : Prepared} (h : Answered (⟨[sampleGrid]⟩ : Prepared) q.answers engine) :
    ∃ a : Answer, q.answers = [a] ∧ a.pos = ⟨0, 0⟩ ∧ a.grid = sampleGrid := by
  have hslots : nativeSample.slots.map (·.pos) = [⟨0, 0⟩] := by rfl
  have hpos : q.answers.map (·.pos) = [⟨0, 0⟩] := by
    rw [← hslots, ← htemplate, ← hq, List.map_map]
    rfl
  obtain ⟨a, hanswers, hpos⟩ := List.map_eq_singleton_iff.1 hpos
  rw [hanswers] at h
  cases h with
  | cons eval tail => exact ⟨a, hanswers, hpos, (Except.ok.inj (congrArg Prod.fst eval)).symm⟩

theorem render_nativeKept_sample :
    ∃ (q : Part) (s : Sheet) (text' : String), q.template = nativeSample ∧
      (render nativeBook (⟨[sampleGrid]⟩ : Prepared)).2.book.sheets = [s] ∧
      s.cells[(⟨2, 2⟩ : CellRef)]? = some ⟨.formula text', 0⟩ ∧
      List.Forall₂ (Denotes (Layout.move q.answers)) (ofText "A1+$b02".toList)
        (ofText text'.toList) := by
  obtain ⟨parts, htemplates, hcomplete, hanswered, hkept⟩ :=
    render_nativeKept (r := (render nativeBook (⟨[sampleGrid]⟩ : Prepared)).2)
      (show render nativeBook (⟨[sampleGrid]⟩ : Prepared) = (.ok (), _) by rfl)
  obtain ⟨q, rfl, htemplate⟩ := List.map_eq_singleton_iff.1 htemplates
  obtain ⟨s, rest, hkept, hrest, hs⟩ := List.forall₂_cons_left_iff.1 hkept
  rw [List.forall₂_nil_left_iff.1 hrest] at hs
  rw [allAnswers, List.flatMap_singleton] at hanswered
  obtain ⟨a, hanswers, hpos, hgrid⟩ :=
    answers_nativeBook htemplate (hcomplete q List.mem_cons_self) hanswered
  have hmove (d : CellRef) : Layout.move q.answers d =
      ⟨d.row + if 0 < d.row then 1 else 0, d.col + if 0 < d.col then 1 else 0⟩ := by
    rw [hanswers]
    simp only [Layout.move, Layout.line, Layout.gain_cons, Layout.gain_nil, hpos, Answer.extra,
      hgrid]
    rfl
  have hw : ∀ pre t d post, Occurs "A1+$b02".toList pre t d post →
      (Layout.move q.answers d).Writable := by
    intro pre t d post hoccurs
    rw [hmove]
    rcases occurs_nativeSample hoccurs with rfl | rfl <;> decide
  obtain ⟨text', hcell, -, -, hdenotes⟩ :=
    hkept.formulas ⟨1, 1⟩ "A1+$b02" 0 (by rw [htemplate]; rfl) hw
  rw [hmove] at hcell
  exact ⟨q, s, text', htemplate, hs, hcell, hdenotes⟩

end SheetTemplate
