import SheetTemplate.Proofs.Slots
import SheetTemplate.Render.Book

namespace SheetTemplate

/-- Through `f` every engine gives the answers that it gives by itself. -/
def Imitates {σ τ : Type} [Evaluator σ] [Evaluator τ] (f : σ → τ) : Prop :=
  ∀ x e, Evaluator.evaluate x (f e) = Prod.map id f (Evaluator.evaluate x e)

namespace Pass

variable {κ σ τ : Type}

def project (f : σ → τ) (p : Pass κ σ) : Pass κ τ :=
  ⟨p.sheet, p.styles, p.area, p.written, p.merges, f p.engine, p.stats, p.journal⟩

variable [MergeLookup κ] {f : σ → τ}

theorem skips_project (p : Pass κ σ) (c : CellRef) :
    (p.project f).skips c = Prod.map id (project f) (p.skips c) := by
  unfold skips
  by_cases hc : covered p.written c = true
  · rw [if_pos hc, if_pos (show covered (p.project f).written c = true from hc)]
    rfl
  · rw [if_neg hc, if_neg (show ¬ covered (p.project f).written c = true from hc)]
    rfl

theorem visit_project (p : Pass κ σ) (c : CellRef) :
    (p.project f).visit c = Prod.map id (project f) (p.visit c) := by
  unfold visit
  rw [skips_project]
  rcases p.skips c with ⟨skipped, q⟩
  cases skipped with
  | true => rfl
  | false =>
    dsimp only [Prod.map, id, project]
    rw [if_neg Bool.false_ne_true, if_neg Bool.false_ne_true]
    cases (q.sheet.valueAt c).text? with
    | none => rfl
    | some text =>
      dsimp only
      cases Formula.read text <;> rfl

theorem findInRow_project (p : Pass κ σ) (row n col : Nat) :
    (p.project f).findInRow row n col = Prod.map id (project f) (p.findInRow row n col) := by
  induction n generalizing p col with
  | zero => rfl
  | succ n ih =>
    rw [findInRow, findInRow, visit_project]
    rcases p.visit ⟨row, col⟩ with ⟨found, q⟩
    cases found with
    | none => exact ih q (col + 1)
    | some x => rfl

theorem findInRows_project (p : Pass κ σ) (n row : Nat) :
    (p.project f).findInRows n row = Prod.map id (project f) (p.findInRows n row) := by
  induction n generalizing p row with
  | zero => rfl
  | succ n ih =>
    have harea : (p.project f).area = p.area := rfl
    rw [findInRows, findInRows, harea, findInRow_project]
    rcases p.findInRow row p.area.width p.area.left with ⟨found, q⟩
    cases found with
    | none => exact ih q (row + 1)
    | some x => rfl

theorem find_project (p : Pass κ σ) (c : CellRef) :
    (p.project f).find c = Prod.map id (project f) (p.find c) := by
  have harea : (p.project f).area = p.area := rfl
  rw [find, find, harea, findInRow_project]
  rcases p.findInRow c.row (p.area.right + 1 - c.col) c.col with ⟨found, q⟩
  cases found with
  | none => exact findInRows_project q _ _
  | some x => rfl

theorem insertRows_project (p : Pass κ σ) (c : CellRef) (g : Grid) :
    (p.project f).insertRows c g = (p.insertRows c g).project f := by
  unfold insertRows
  split <;> rfl

theorem insertCols_project (p : Pass κ σ) (c : CellRef) (g : Grid) :
    (p.project f).insertCols c g = (p.insertCols c g).project f := by
  unfold insertCols
  split <;> rfl

theorem apply_project (p : Pass κ σ) (c : CellRef) (format : FormatSpec) (g : Grid) :
    (p.project f).apply c format g = Prod.map id (project f) (p.apply c format g) := by
  unfold apply
  rw [insertRows_project, insertCols_project]
  generalize (p.insertRows c g).insertCols c g = q
  dsimp only [project]
  cases q.styles[(q.sheet.writeGrid c format g).styleAt c]? <;> rfl

variable [Evaluator σ] [Evaluator τ]

theorem answer_project (hf : Imitates f) (p : Pass κ σ) (c : CellRef) (x : Found) :
    (p.project f).answer c x = Prod.map id (project f) (p.answer c x) := by
  unfold answer
  dsimp only [project, addLine]
  rw [hf]
  rcases Evaluator.evaluate x.formula p.engine with ⟨result, engine⟩
  cases result with
  | error e => rfl
  | ok g =>
    dsimp only [Prod.map, id]
    exact apply_project { p with engine, journal := _ } c x.formula.format g

theorem run_project (hf : Imitates f) (p : Pass κ σ) (c : CellRef) (n : Nat) :
    (p.project f).run c n = Prod.map id (project f) (p.run c n) := by
  induction n generalizing p c with
  | zero =>
    rw [run, run, find_project]
    rfl
  | succ n ih =>
    rw [run, run, find_project]
    rcases p.find c with ⟨found, q⟩
    cases found with
    | none => rfl
    | some hit =>
      obtain ⟨pos, x⟩ := hit
      dsimp only [Prod.map, id]
      rw [answer_project hf]
      rcases q.answer pos x with ⟨result, q'⟩
      cases result with
      | error e => rfl
      | ok _ => exact ih q' ⟨pos.row, pos.col + 1⟩

end Pass

namespace Rendering

variable {σ τ : Type}

def project (f : σ → τ) (r : Rendering σ) : Rendering τ :=
  ⟨r.book, f r.engine, r.stats, r.journal⟩

variable [Evaluator σ] [Evaluator τ] {f : σ → τ} (κ : Type) [MergeLookup κ]

theorem renderSheet_project (hf : Imitates f) (r : Rendering σ) (s : Sheet) :
    (r.project f).renderSheet κ s = Prod.map id (project f) (r.renderSheet κ s) := by
  unfold renderSheet
  cases s.extent? with
  | none => rfl
  | some area =>
    have hpass : (r.project f).startPass κ s area = (r.startPass κ s area).project f := rfl
    dsimp only
    rw [hpass, Pass.run_project hf]
    rfl

theorem renderSheets_project (hf : Imitates f) (r : Rendering σ) (names : List String) :
    (r.project f).renderSheets κ names = Prod.map id (project f) (r.renderSheets κ names) := by
  induction names generalizing r with
  | nil => rfl
  | cons name rest ih =>
    have hbook : (r.project f).book = r.book := rfl
    rw [renderSheets, renderSheets, hbook]
    cases r.book.sheet name with
    | error e => rfl
    | ok s =>
      dsimp only
      rw [renderSheet_project κ hf]
      rcases r.renderSheet κ s with ⟨result, r'⟩
      cases result with
      | error e => rfl
      | ok _ => exact ih (r'.finishSheet name r.stats.formulas)

end Rendering

/-- Engines that give the same answers render a book alike. -/
theorem render_project {σ τ : Type} [Evaluator σ] [Evaluator τ] {f : σ → τ} (hf : Imitates f)
    (book : Workbook) (engine : σ) :
    render book (f engine) = Prod.map id (Rendering.project f) (render book engine) :=
  Rendering.renderSheets_project MergeCache hf { book, engine } book.sheetNames

/-- An engine that is watched: the formulas that were handed to it so far stand in order. -/
structure Recorder (σ : Type) where
  engine : σ
  calls : List Formula

namespace Recorder

variable {σ : Type}

def watch (engine : σ) : Recorder σ := ⟨engine, []⟩

variable [Evaluator σ]

instance : Evaluator (Recorder σ) where
  evaluate f r :=
    let (result, engine) := Evaluator.evaluate f r.engine
    (result, ⟨engine, r.calls ++ [f]⟩)

theorem imitates_engine : Imitates (engine : Recorder σ → σ) := fun _ _ => rfl

theorem calls_of_evaluate {f : Formula} {r r' : Recorder σ} {result : Except EngineError Grid}
    (h : Evaluator.evaluate f r = (result, r')) :
    r'.calls = r.calls ++ [f] ∧ Evaluator.evaluate f r.engine = (result, r'.engine) := by
  cases h
  exact ⟨rfl, rfl⟩

theorem calls_of_answered {r r' : Recorder σ} {answers : List Answer}
    (h : Answered r answers r') :
    r'.calls = r.calls ++ (answers.map Answer.toSlot).map (·.formula) ∧
      Answered r.engine answers r'.engine := by
  induction h with
  | nil r => exact ⟨(List.append_nil _).symm, .nil _⟩
  | cons eval _ ih =>
    obtain ⟨hcalls, heval⟩ := calls_of_evaluate eval
    obtain ⟨hrest, htail⟩ := ih
    refine ⟨?_, .cons heval htail⟩
    rw [hrest, hcalls, List.append_assoc]
    rfl

end Recorder

end SheetTemplate
