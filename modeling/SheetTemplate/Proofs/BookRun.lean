import Mathlib.Data.List.Forall2
import SheetTemplate.Proofs.PassRun
import SheetTemplate.Render.Book

namespace SheetTemplate

structure Part where
  template : Sheet
  answers : List Answer

namespace Part

def Complete (q : Part) : Prop := q.answers.map Answer.toSlot = q.template.slots

theorem Complete.openedBy {q : Part} (h : q.Complete) : q.template.OpenedBy q.answers :=
  (congrArg (· <+: q.template.slots) h).mpr (List.prefix_refl _)

end Part

def allAnswers (parts : List Part) : List Answer := parts.flatMap (·.answers)

theorem allAnswers_concat (parts : List Part) (q : Part) :
    allAnswers (parts ++ [q]) = allAnswers parts ++ q.answers := by
  simp [allAnswers]

/-- Fills templates one after the other; each goes on with the styles of the one before it. -/
def fillParts (styles : List Style) (parts : List Part) : List Sheet × List Style :=
  parts.foldl (fun (sheets, styles) q =>
    let t := (⟨q.template, styles⟩ : Canvas).fill q.answers
    (sheets ++ [t.sheet], t.styles)) ([], styles)

theorem fillParts_concat (styles : List Style) (parts : List Part) (q : Part) :
    fillParts styles (parts ++ [q]) =
      ((fillParts styles parts).1 ++
          [((⟨q.template, (fillParts styles parts).2⟩ : Canvas).fill q.answers).sheet],
        ((⟨q.template, (fillParts styles parts).2⟩ : Canvas).fill q.answers).styles) := by
  rw [fillParts, List.foldl_append]
  rfl

theorem prefix_fillParts (styles : List Style) (parts : List Part) :
    styles <+: (fillParts styles parts).2 := by
  induction parts using List.reverseRecOn with
  | nil => exact List.prefix_refl _
  | append_singleton parts q ih =>
    rw [fillParts_concat]
    exact ih.trans (Canvas.prefix_fill ⟨q.template, _⟩ q.answers)

theorem length_styles_fillParts (styles : List Style) (parts : List Part) :
    styles.length ≤ (fillParts styles parts).2.length :=
  (prefix_fillParts styles parts).length_le

theorem forall₂_fillParts {R : Part → Sheet → Prop} (styles : List Style) {parts : List Part}
    (h : ∀ q ∈ parts, ∀ styles, R q ((⟨q.template, styles⟩ : Canvas).fill q.answers).sheet) :
    List.Forall₂ R parts (fillParts styles parts).1 := by
  induction parts using List.reverseRecOn with
  | nil => exact .nil
  | append_singleton parts q ih =>
    rw [fillParts_concat]
    refine List.rel_append (ih fun q hq => h q (List.mem_append_left _ hq)) (.cons ?_ .nil)
    exact h q (List.mem_append_right _ List.mem_cons_self) _

namespace Workbook

variable {b : Workbook} {front later : List Sheet} {s : Sheet}

theorem name_ne_of_split (h : b.sheets = front ++ s :: later) :
    ∀ t ∈ front, t.name ≠ s.name := by
  intro t ht hname
  have hnodup := b.names_nodup
  rw [h, List.map_append, List.nodup_append] at hnodup
  exact hnodup.2.2 t.name (List.mem_map_of_mem ht) s.name (by simp) hname

theorem findSheet?_of_split (h : b.sheets = front ++ s :: later) :
    b.findSheet? s.name = some s := by
  rw [findSheet?, h, List.find?_append]
  have hfront : front.find? (·.name == s.name) = none := by
    rw [List.find?_eq_none]
    intro t ht
    simpa using name_ne_of_split h t ht
  rw [hfront, Option.none_or]
  exact List.find?_cons_of_pos (by simp)

theorem sheet_of_split (h : b.sheets = front ++ s :: later) : b.sheet s.name = .ok s := by
  rw [sheet, findSheet?_of_split h]

theorem updateFirst_split (h : b.sheets = front ++ s :: later) (f : Sheet → Sheet) :
    updateFirst s.name f b.sheets = front ++ { f s with name := s.name } :: later := by
  have hne := name_ne_of_split h
  rw [h]
  clear h
  induction front with
  | nil =>
    rw [List.nil_append, updateFirst, if_pos (by simp)]
    rfl
  | cons u front ih =>
    rw [List.cons_append, updateFirst, if_neg (by simpa using hne u List.mem_cons_self),
      ih fun v hv => hne v (List.mem_cons_of_mem _ hv)]
    rfl

theorem updateFirst_of_split (h : b.sheets = front ++ s :: later) {t : Sheet}
    (ht : t.name = s.name) :
    updateFirst t.name (fun _ => t) b.sheets = front ++ t :: later := by
  rw [ht, updateFirst_split h, ← ht]

end Workbook

theorem Sheet.slots_of_no_extent {s : Sheet} (h : s.extent? = none) : s.slots = [] := by
  by_contra hne
  obtain ⟨slot, hslot⟩ := List.exists_mem_of_ne_nil _ hne
  obtain ⟨cell, hcell, -⟩ := mem_slots.1 hslot
  have hpos := mem_cells_iff.2 ⟨cell, hcell⟩
  have hpiece : .ofCell slot.pos ∈ s.pieces := (mem_pieces hpos).2 (.inl ⟨slot.pos, hpos, rfl⟩)
  rw [extent?_eq] at h
  split at h
  case h_1 hnil =>
    rw [hnil] at hpiece
    cases hpiece
  case h_2 => cases h

def Workbook.slots (b : Workbook) : List Slot := b.sheets.flatMap (·.slots)

theorem Workbook.slots_of_parts {b : Workbook} {parts : List Part} {rest : List Sheet}
    (h : b.sheets = parts.map (·.template) ++ rest) (hcomplete : ∀ q ∈ parts, q.Complete) :
    b.slots = (allAnswers parts).map Answer.toSlot ++ rest.flatMap (·.slots) := by
  have hparts : (parts.map (·.template)).flatMap (·.slots) =
      (allAnswers parts).map Answer.toSlot := by
    clear h
    induction parts with
    | nil => rfl
    | cons q parts ih =>
      have hq : q.answers.map Answer.toSlot = q.template.slots := hcomplete q List.mem_cons_self
      rw [List.map_cons, List.flatMap_cons, ih fun q hq => hcomplete q (List.mem_cons_of_mem _ hq),
        ← hq, ← List.map_append]
      rfl
  rw [slots, h, List.flatMap_append, hparts]

theorem Workbook.slots_of_split {b : Workbook} {parts : List Part} {q : Part} {later : List Sheet}
    {f : Slot} {pending : List Slot}
    (h : b.sheets = parts.map (·.template) ++ q.template :: later)
    (hcomplete : ∀ q ∈ parts, q.Complete)
    (hsplit : q.template.slots = q.answers.map Answer.toSlot ++ f :: pending) :
    b.slots = (allAnswers (parts ++ [q])).map Answer.toSlot ++
      f :: (pending ++ later.flatMap (·.slots)) := by
  rw [slots_of_parts h hcomplete, List.flatMap_cons, hsplit, allAnswers_concat]
  simp

namespace Rendering

variable (κ : Type) {σ : Type} [MergeLookup κ] [LawfulMergeLookup κ] [Evaluator σ] {r : Rendering σ}
  {front later : List Sheet} {s : Sheet}

theorem progress_startPass (r : Rendering σ) (s : Sheet) (area : Area) :
    Pass.Progress (r.startPass κ s area) [] (r.startPass κ s area) :=
  .nil rfl (LawfulMergeLookup.agrees_start s.merges)

theorem ending_startPass (r : Rendering σ) {area : Area} (harea : s.extent? = some area) :
    Pass.Ending (r.startPass κ s area) ((r.startPass κ s area).run area.topLeft s.textCount).1
      ((r.startPass κ s area).run area.topLeft s.textCount).2 := by
  refine (progress_startPass κ r s area).run_ending harea (Pass.clear_start harea) ?_
  rw [List.length_nil, Nat.zero_add]
  exact s.length_slots_le

theorem renderSheet_spec (h : r.book.sheets = front ++ s :: later) :
    (∃ done r', r.renderSheet κ s = (.ok (), r') ∧ done.map Answer.toSlot = s.slots ∧
        Answered r.engine done r'.engine ∧
        r'.book.sheets = front ++ ((⟨s, r.book.styles⟩ : Canvas).fill done).sheet :: later ∧
        r'.book.styles = ((⟨s, r.book.styles⟩ : Canvas).fill done).styles ∧
        r'.stats = r.stats.count done) ∨
      ∃ done f pending e t r', r.renderSheet κ s = (.error e, r') ∧
        s.slots = done.map Answer.toSlot ++ f :: pending ∧
        Stopped ⟨s, r.book.styles⟩ r.engine done f e t r'.engine ∧
        (t.sheet.name = s.name → r'.book.sheets = front ++ t.sheet :: later) ∧
        r'.book.styles = t.styles := by
  unfold renderSheet
  cases harea : s.extent? with
  | none =>
    refine .inl ⟨[], _, rfl, ?_, .nil _, h, rfl, rfl⟩
    rw [Sheet.slots_of_no_extent harea]
    rfl
  | some area =>
    have hending := ending_startPass κ r harea
    dsimp only
    rcases hrun : (r.startPass κ s area).run area.topLeft s.textCount with ⟨result, p⟩
    rw [hrun] at hending
    dsimp only at hending ⊢
    cases hending with
    | finished progress all =>
      refine .inl ⟨_, _, rfl, all, progress.answered, ?_, progress.styles_eq, progress.stats⟩
      change Workbook.updateFirst p.sheet.name (fun _ => p.sheet) r.book.sheets = _
      rw [Workbook.updateFirst_of_split h progress.laid.name, progress.sheet_eq]
      rfl
    | stopped split stop =>
      exact .inr ⟨_, _, _, _, p.canvas, _, rfl, split, stop, Workbook.updateFirst_of_split h, rfl⟩

structure Progress (r₀ : Rendering σ) (parts : List Part) (rest : List Sheet)
    (r : Rendering σ) : Prop where
  templates : r₀.book.sheets = parts.map (·.template) ++ rest
  complete : ∀ q ∈ parts, q.Complete
  answered : Answered r₀.engine (allAnswers parts) r.engine
  sheets : r.book.sheets = (fillParts r₀.book.styles parts).1 ++ rest
  styles : r.book.styles = (fillParts r₀.book.styles parts).2
  stats : r.stats =
    { r₀.stats.count (allAnswers parts) with sheets := r₀.stats.sheets + parts.length }

/-- How a render that began as `r₀` ends. When it stops at formula `f` of a sheet, the formulas
before it are answered. -/
inductive Ending (r₀ : Rendering σ) : Except SheetError Unit → Rendering σ → Prop
  | finished {parts : List Part} {r : Rendering σ} (progress : Progress r₀ parts [] r) :
      Ending r₀ (.ok ()) r
  | refused {parts : List Part} {q : Part} {later : List Sheet} {f : Slot} {pending : List Slot}
      {e : EngineError} {engine : σ} {r : Rendering σ}
      (templates : r₀.book.sheets = parts.map (·.template) ++ q.template :: later)
      (complete : ∀ q ∈ parts, q.Complete)
      (split : q.template.slots = q.answers.map Answer.toSlot ++ f :: pending)
      (answered : Answered r₀.engine (allAnswers (parts ++ [q])) engine)
      (eval : Evaluator.evaluate f.formula engine = (.error e, r.engine))
      (sheets : r.book.sheets = (fillParts r₀.book.styles (parts ++ [q])).1 ++ later)
      (styles : r.book.styles = (fillParts r₀.book.styles (parts ++ [q])).2) :
      Ending r₀ (.error (.engine e)) r
  | unstyled {parts : List Part} {q : Part} {later : List Sheet} {f : Slot} {pending : List Slot}
      {cell : Cell} {g : Grid} {engine : σ} {r : Rendering σ}
      (templates : r₀.book.sheets = parts.map (·.template) ++ q.template :: later)
      (complete : ∀ q ∈ parts, q.Complete)
      (split : q.template.slots = q.answers.map Answer.toSlot ++ f :: pending)
      (answered : Answered r₀.engine (allAnswers (parts ++ [q])) engine)
      (eval : Evaluator.evaluate f.formula engine = (.ok g, r.engine))
      (stored : q.template.cells[f.pos]? = some cell)
      (style : (fillParts r₀.book.styles (parts ++ [q])).2[cell.style]? = none) :
      Ending r₀ (.error (.unknownStyle cell.style)) r

variable {r₀ : Rendering σ} {parts : List Part} {rest : List Sheet}

theorem Progress.start (r : Rendering σ) : Progress r [] r.book.sheets r where
  templates := rfl
  complete := by simp
  answered := .nil _
  sheets := rfl
  styles := rfl
  stats := rfl

theorem Progress.concat {r' : Rendering σ} {done : List Answer}
    (h : Progress r₀ parts (s :: rest) r)
    (hall : done.map Answer.toSlot = s.slots) (hanswered : Answered r.engine done r'.engine)
    (hsheets : r'.book.sheets = (fillParts r₀.book.styles parts).1 ++
      ((⟨s, r.book.styles⟩ : Canvas).fill done).sheet :: rest)
    (hstyles : r'.book.styles = ((⟨s, r.book.styles⟩ : Canvas).fill done).styles)
    (hstats : r'.stats = { r.stats.count done with sheets := r.stats.sheets + 1 }) :
    Progress r₀ (parts ++ [⟨s, done⟩]) rest r' := by
  constructor
  case templates => rw [h.templates, List.map_append, List.append_assoc]; rfl
  case complete =>
    intro q hq
    rcases List.mem_append.1 hq with hq | hq
    · exact h.complete q hq
    · obtain rfl := List.mem_singleton.1 hq
      exact hall
  case answered =>
    rw [allAnswers_concat]
    exact h.answered.append hanswered
  case sheets =>
    rw [hsheets, fillParts_concat, h.styles, List.append_assoc]
    rfl
  case styles =>
    rw [hstyles, fillParts_concat, h.styles]
  case stats =>
    rw [hstats, h.stats, allAnswers_concat, RenderStats.count_append, List.length_append]
    rfl

theorem Progress.finished (h : Progress r₀ parts [] r) :
    parts.map (·.template) = r₀.book.sheets ∧
      r.book.sheets = (fillParts r₀.book.styles parts).1 := by
  have htemplates := h.templates
  have hsheets := h.sheets
  rw [List.append_nil] at htemplates hsheets
  exact ⟨htemplates.symm, hsheets⟩

/-- A render goes on to the last sheet or to the first formula that cannot be answered. -/
theorem Progress.renderSheets_ending (h : Progress r₀ parts rest r) :
    Ending r₀ (r.renderSheets κ (rest.map (·.name))).1
      (r.renderSheets κ (rest.map (·.name))).2 := by
  induction rest generalizing parts r with
  | nil => exact .finished h
  | cons s rest ih =>
    rw [List.map_cons, renderSheets, Workbook.sheet_of_split h.sheets]
    dsimp only
    rcases renderSheet_spec κ h.sheets with
      ⟨done, r', hrender, hall, hanswered, hsheets, hstyles, hstats⟩ |
      ⟨done, f, pending, e, t, r', hrender, hsplit, hstop, hsheets, hstyles⟩
    · rw [hrender]
      have hfinish : (r'.finishSheet s.name r.stats.formulas).stats =
          { r.stats.count done with sheets := r.stats.sheets + 1 } := by
        change { r'.stats with sheets := r'.stats.sheets + 1 } = _
        rw [hstats]
        rfl
      exact ih (h.concat hall hanswered hsheets hstyles hfinish)
    · rw [hrender]
      -- The pass has stopped, behind the answers to the finished sheets and to this one.
      have hanswers {engine : σ} (hanswered : Answered r.engine done engine) :
          Answered r₀.engine (allAnswers (parts ++ [⟨s, done⟩])) engine := by
        rw [allAnswers_concat]
        exact h.answered.append hanswered
      have hfill : fillParts r₀.book.styles (parts ++ [⟨s, done⟩]) =
          ((fillParts r₀.book.styles parts).1 ++
              [((⟨s, r.book.styles⟩ : Canvas).fill done).sheet],
            ((⟨s, r.book.styles⟩ : Canvas).fill done).styles) := by
        rw [fillParts_concat, h.styles]
      cases hstop with
      | refused answered eval =>
        have hopened : s.OpenedBy done := ⟨_, hsplit.symm⟩
        have hlaid := Canvas.laid_fill ⟨s, r.book.styles⟩ hopened
        refine .refused (q := ⟨s, done⟩) h.templates h.complete hsplit (hanswers answered) eval
          ?_ ?_
        · rw [hsheets hlaid.name, hfill, List.append_assoc]
          rfl
        · rw [hstyles, hfill]
      | unstyled answered eval stored style =>
        refine .unstyled (q := ⟨s, done⟩) h.templates h.complete hsplit (hanswers answered) eval
          stored ?_
        rw [hfill]
        exact style

theorem renderWith_ending (book : Workbook) (engine : σ) :
    Ending { book, engine } (renderWith κ book engine).1 (renderWith κ book engine).2 :=
  (Progress.start { book, engine }).renderSheets_ending κ

end Rendering

section Render

variable {σ : Type} [Evaluator σ] {book : Workbook} {engine : σ} {r : Rendering σ}

theorem render_ending {result : Except SheetError Unit} (h : render book engine = (result, r)) :
    Rendering.Ending { book, engine } result r := by
  have hending := Rendering.renderWith_ending MergeCache book engine
  change Rendering.Ending _ (render book engine).1 (render book engine).2 at hending
  rwa [h] at hending

theorem render_progress (h : render book engine = (.ok (), r)) :
    ∃ parts, Rendering.Progress { book, engine } parts [] r := by
  cases render_ending h with
  | finished progress => exact ⟨_, progress⟩

end Render

structure Prepared where
  grids : List Grid

def Prepared.next (e : Prepared) : Except EngineError Grid × Prepared :=
  match e.grids with
  | [] => (.error .wrongCodeFormat, e)
  | g :: rest => (.ok g, ⟨rest⟩)

instance : Evaluator Prepared where
  evaluate _ e := e.next

def sampleSheet : Sheet :=
  ({ name := "Report" } : Sheet)
    |>.setValue ⟨0, 0⟩ (.text "\x7b\x7b[x]a\x7d\x7d")
    |>.setValue ⟨0, 1⟩ (.text "\x7b\x7b[x]b\x7d\x7d")
    |>.setValue ⟨1, 0⟩ (.int 7)

def sampleBook : Workbook := { sheets := [sampleSheet] }

def sampleGrid : Grid := .ofRows .string [[.str "a", .str "b"], [.str "c", .str "d"]]

end SheetTemplate
