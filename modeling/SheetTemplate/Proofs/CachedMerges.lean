import SheetTemplate.Proofs.BookRun
import SheetTemplate.Proofs.CellByCell
import SheetTemplate.Proofs.Recording
import SheetTemplate.Proofs.Writing

namespace SheetTemplate

/-- Lookups that are in step give the same answers and stay in step, whatever becomes of the merged
regions when the sheet is changed. -/
structure InStep {κ κ' : Type} [MergeLookup κ] [MergeLookup κ']
    (R : List Area → κ → κ' → Prop) : Prop where
  start (areas : List Area) : R areas MergeLookup.start MergeLookup.start
  answer {areas : List Area} {k : κ} {k' : κ'} (h : R areas k k') (c : CellRef) :
    (MergeLookup.ask areas c k').1 = (MergeLookup.ask areas c k).1
  ask {areas : List Area} {k : κ} {k' : κ'} (h : R areas k k') (c : CellRef) :
    R areas (MergeLookup.ask areas c k).2 (MergeLookup.ask areas c k').2
  invalidate {areas : List Area} {k : κ} {k' : κ'} (h : R areas k k') (areas' : List Area) :
    R areas' (MergeLookup.invalidate k) (MergeLookup.invalidate k')

def BothAgree {κ κ' : Type} [MergeLookup κ] [MergeLookup κ'] [LawfulMergeLookup κ]
    [LawfulMergeLookup κ'] (areas : List Area) (k : κ) (k' : κ') : Prop :=
  LawfulMergeLookup.Agrees areas k ∧ LawfulMergeLookup.Agrees areas k'

theorem inStep_bothAgree {κ κ' : Type} [MergeLookup κ] [MergeLookup κ'] [LawfulMergeLookup κ]
    [LawfulMergeLookup κ'] : InStep (BothAgree : List Area → κ → κ' → Prop) where
  start areas := ⟨LawfulMergeLookup.agrees_start areas, LawfulMergeLookup.agrees_start areas⟩
  answer h c := (LawfulMergeLookup.ask_eq h.2 c).trans (LawfulMergeLookup.ask_eq h.1 c).symm
  ask h c := ⟨LawfulMergeLookup.agrees_ask h.1 c, LawfulMergeLookup.agrees_ask h.2 c⟩
  invalidate h areas' :=
    ⟨LawfulMergeLookup.agrees_invalidate h.1 areas', LawfulMergeLookup.agrees_invalidate h.2 areas'⟩

namespace Pass

variable {κ κ' σ α : Type}

def withLookup (p : Pass κ σ) (k : κ') : Pass κ' σ :=
  ⟨p.sheet, p.styles, p.area, p.written, k, p.engine, p.stats, p.journal⟩

variable {R : List Area → κ → κ' → Prop}

def Alike (R : List Area → κ → κ' → Prop) (p : Pass κ σ) (p' : Pass κ' σ) : Prop :=
  ∃ k, R p.sheet.merges p.merges k ∧ p.withLookup k = p'

def AlikeAfter (R : List Area → κ → κ' → Prop) (x : α × Pass κ σ) (x' : α × Pass κ' σ) : Prop :=
  ∃ k, R x.2.sheet.merges x.2.merges k ∧ (x.1, x.2.withLookup k) = x'

theorem Alike.area_eq {p : Pass κ σ} {p' : Pass κ' σ} (h : Alike R p p') : p'.area = p.area := by
  obtain ⟨k, -, rfl⟩ := h
  rfl

variable [MergeLookup κ] [MergeLookup κ'] (hR : InStep R) {p : Pass κ σ} {p' : Pass κ' σ}

include hR

theorem Alike.skips (h : Alike R p p') (c : CellRef) : AlikeAfter R (p.skips c) (p'.skips c) := by
  obtain ⟨k, hk, rfl⟩ := h
  unfold Pass.skips
  by_cases hc : covered p.written c = true
  · rw [if_pos hc, if_pos (show covered (p.withLookup k).written c = true from hc)]
    exact ⟨k, hk, rfl⟩
  · rw [if_neg hc, if_neg (show ¬ covered (p.withLookup k).written c = true from hc)]
    exact ⟨_, hR.ask hk c, Prod.ext (hR.answer hk c).symm rfl⟩

theorem Alike.visit (h : Alike R p p') (c : CellRef) : AlikeAfter R (p.visit c) (p'.visit c) := by
  obtain ⟨k, hk, hskips⟩ := h.skips hR c
  rw [Pass.visit, Pass.visit, ← hskips]
  generalize p.skips c = x at hk ⊢
  obtain ⟨skipped, q⟩ := x
  dsimp only [withLookup]
  split
  case isTrue => exact ⟨k, hk, rfl⟩
  case isFalse =>
    cases (q.sheet.valueAt c).text? with
    | none => exact ⟨k, hk, rfl⟩
    | some text =>
      dsimp only
      cases Formula.read text <;> exact ⟨k, hk, rfl⟩

theorem Alike.findInRow (h : Alike R p p') (row n col : Nat) :
    AlikeAfter R (p.findInRow row n col) (p'.findInRow row n col) := by
  induction n generalizing p p' col with
  | zero =>
    obtain ⟨k, hk, rfl⟩ := h
    exact ⟨k, hk, rfl⟩
  | succ n ih =>
    obtain ⟨k, hk, hvisit⟩ := h.visit hR ⟨row, col⟩
    rw [Pass.findInRow, Pass.findInRow, ← hvisit]
    generalize p.visit ⟨row, col⟩ = x at hk ⊢
    obtain ⟨found, q⟩ := x
    cases found with
    | none => exact ih ⟨k, hk, rfl⟩ (col + 1)
    | some f => exact ⟨k, hk, rfl⟩

theorem Alike.findInRows (h : Alike R p p') (n row : Nat) :
    AlikeAfter R (p.findInRows n row) (p'.findInRows n row) := by
  induction n generalizing p p' row with
  | zero =>
    obtain ⟨k, hk, rfl⟩ := h
    exact ⟨k, hk, rfl⟩
  | succ n ih =>
    obtain ⟨k, hk, hrow⟩ := h.findInRow hR row p.area.width p.area.left
    rw [Pass.findInRows, Pass.findInRows, h.area_eq, ← hrow]
    generalize p.findInRow row p.area.width p.area.left = x at hk ⊢
    obtain ⟨found, q⟩ := x
    cases found with
    | none => exact ih ⟨k, hk, rfl⟩ (row + 1)
    | some hit => exact ⟨k, hk, rfl⟩

theorem Alike.find (h : Alike R p p') (c : CellRef) : AlikeAfter R (p.find c) (p'.find c) := by
  obtain ⟨k, hk, hrow⟩ := h.findInRow hR c.row (p.area.right + 1 - c.col) c.col
  rw [Pass.find, Pass.find, h.area_eq, ← hrow]
  generalize p.findInRow c.row (p.area.right + 1 - c.col) c.col = x at hk ⊢
  obtain ⟨found, q⟩ := x
  cases found with
  | none => exact Alike.findInRows hR ⟨k, hk, rfl⟩ (q.area.bottom - c.row) (c.row + 1)
  | some hit => exact ⟨k, hk, rfl⟩

theorem Alike.insertRows (h : Alike R p p') (c : CellRef) (g : Grid) :
    Alike R (p.insertRows c g) (p'.insertRows c g) := by
  obtain ⟨k, hk, rfl⟩ := h
  unfold Pass.insertRows
  split
  case isTrue => exact ⟨_, hR.invalidate hk _, rfl⟩
  case isFalse => exact ⟨k, hk, rfl⟩

theorem Alike.insertCols (h : Alike R p p') (c : CellRef) (g : Grid) :
    Alike R (p.insertCols c g) (p'.insertCols c g) := by
  obtain ⟨k, hk, rfl⟩ := h
  unfold Pass.insertCols
  split
  case isTrue => exact ⟨_, hR.invalidate hk _, rfl⟩
  case isFalse => exact ⟨k, hk, rfl⟩

theorem Alike.apply (h : Alike R p p') (c : CellRef) (format : FormatSpec) (g : Grid) :
    AlikeAfter R (p.apply c format g) (p'.apply c format g) := by
  obtain ⟨k, hk, hroom⟩ := (h.insertRows hR c g).insertCols hR c g
  unfold Pass.apply
  rw [← hroom]
  generalize (p.insertRows c g).insertCols c g = q at hk
  -- Writing leaves the merged regions alone, so that a failure need not be told to the lookup.
  have hwrite : (q.sheet.writeGrid c format g).merges = q.sheet.merges :=
    (Sheet.frame_writeGrid ..).2
  dsimp only [withLookup]
  cases q.styles[(q.sheet.writeGrid c format g).styleAt c]? with
  | none => exact ⟨k, hwrite ▸ hk, rfl⟩
  | some style => exact ⟨_, hR.invalidate hk _, rfl⟩

variable [Evaluator σ]

theorem Alike.answer (h : Alike R p p') (c : CellRef) (f : Found) :
    AlikeAfter R (p.answer c f) (p'.answer c f) := by
  obtain ⟨k, hk, rfl⟩ := h
  unfold Pass.answer
  dsimp only [withLookup, addLine]
  rcases Evaluator.evaluate f.formula p.engine with ⟨result, engine⟩
  cases result with
  | error e => exact ⟨k, hk, rfl⟩
  | ok g => exact Alike.apply hR (p := { p with engine, journal := _ }) ⟨k, hk, rfl⟩ c _ g

theorem Alike.run (h : Alike R p p') (c : CellRef) (n : Nat) :
    AlikeAfter R (p.run c n) (p'.run c n) := by
  induction n generalizing p p' c with
  | zero =>
    obtain ⟨k, hk, hfind⟩ := h.find hR c
    rw [Pass.run, Pass.run, ← hfind]
    exact ⟨k, hk, rfl⟩
  | succ n ih =>
    obtain ⟨k, hk, hfind⟩ := h.find hR c
    rw [Pass.run, Pass.run, ← hfind]
    generalize p.find c = x at hk ⊢
    obtain ⟨_ | ⟨pos, f⟩, q⟩ := x
    case none => exact ⟨k, hk, rfl⟩
    case some =>
      obtain ⟨k', hk', hanswer⟩ := Alike.answer hR (p := q) ⟨k, hk, rfl⟩ pos f
      dsimp only
      rw [← hanswer]
      generalize q.answer pos f = y at hk' ⊢
      obtain ⟨e | _, q'⟩ := y
      case error => exact ⟨k', hk', rfl⟩
      case ok => exact ih ⟨k', hk', rfl⟩ ⟨pos.row, pos.col + 1⟩

omit hR

variable [LawfulMergeLookup κ] {q : Pass κ σ} {c d : CellRef}

theorem Coherent.answer {f : Found} {result : Except SheetError Unit} (h : p.Coherent)
    (hanswer : p.answer c f = (result, q)) : q.Coherent := by
  have halike : Alike BothAgree p (p.withLookup Reread.reread) := ⟨_, ⟨h, trivial⟩, rfl⟩
  obtain ⟨k, hk, -⟩ := halike.answer inStep_bothAgree c f
  rw [hanswer] at hk
  exact hk.1

theorem Turn.coherent {look : Option Look} (hturn : p.Turn c look q d) (h : p.Coherent) :
    q.Coherent := by
  have hvisit {found : Option Found} {t : Pass κ σ} (hvisit : p.visit c = (found, t)) :
      t.Coherent := by
    obtain ⟨t', hidle, hspec⟩ := visit_spec h c
    cases hvisit.symm.trans hspec
    exact hidle.1
  cases hturn with
  | nextRow row col => exact h
  | passOver row col visit => exact hvisit visit
  | answer row col visit answered => exact (hvisit visit).answer answered

theorem Tour.coherent {looks : List Look} (htour : p.Tour c looks q d) (h : p.Coherent) :
    q.Coherent := by
  induction htour with
  | start => exact h
  | turn _ turn ih => exact turn.coherent ih

end Pass

namespace Rendering

variable {κ κ' σ : Type} [MergeLookup κ] [MergeLookup κ'] {R : List Area → κ → κ' → Prop}
  (hR : InStep R) (r : Rendering σ)

include hR

theorem alike_startPass (s : Sheet) (area : Area) :
    Pass.Alike R (r.startPass κ s area) (r.startPass κ' s area) :=
  ⟨_, hR.start s.merges, rfl⟩

variable [Evaluator σ]

theorem renderSheet_inStep (s : Sheet) : r.renderSheet κ' s = r.renderSheet κ s := by
  unfold renderSheet
  cases s.extent? with
  | none => rfl
  | some area =>
    obtain ⟨k, -, hrun⟩ := (alike_startPass hR r s area).run hR area.topLeft s.textCount
    dsimp only
    rw [← hrun]
    rfl

theorem renderSheets_inStep (names : List String) :
    r.renderSheets κ' names = r.renderSheets κ names := by
  induction names generalizing r with
  | nil => rfl
  | cons name rest ih =>
    rw [renderSheets, renderSheets]
    cases r.book.sheet name with
    | error e => rfl
    | ok s =>
      dsimp only
      rw [renderSheet_inStep hR]
      rcases r.renderSheet κ s with ⟨result, r'⟩
      cases result with
      | error e => rfl
      | ok _ => exact ih (r'.finishSheet name r.stats.formulas)

end Rendering

/-- A question whether a cell lies in the merged regions that the sheet has at that moment, and the
answer that was given. -/
structure MergeQuestion where
  areas : List Area
  cell : CellRef
  answer : Bool

def MergeQuestion.Fresh (q : MergeQuestion) : Prop := q.answer = covered q.areas q.cell

structure Overheard (κ : Type) where
  lookup : κ
  questions : List MergeQuestion

namespace Overheard

variable {κ κ' : Type} [MergeLookup κ] [MergeLookup κ']

instance : MergeLookup (Overheard κ) where
  start := ⟨MergeLookup.start, []⟩
  ask areas c k :=
    let (answer, lookup) := MergeLookup.ask areas c k.lookup
    (answer, ⟨lookup, k.questions ++ [⟨areas, c, answer⟩]⟩)
  invalidate k := { k with lookup := MergeLookup.invalidate k.lookup }

/-- Writing down changes nothing. -/
theorem inStep_lookup : InStep fun (_ : List Area) (k : κ) (k' : Overheard κ) => k'.lookup = k where
  start _ := rfl
  answer h c := by subst h; rfl
  ask h c := by subst h; rfl
  invalidate h _ := by subst h; rfl

/-- The lookups agree with the regions, and the same questions have come to them, each with the
answer of its moment. -/
structure SameQuestions [LawfulMergeLookup κ] [LawfulMergeLookup κ'] (areas : List Area)
    (k : Overheard κ) (k' : Overheard κ') : Prop where
  agree : BothAgree areas k.lookup k'.lookup
  questions : k'.questions = k.questions
  fresh : ∀ q ∈ k.questions, q.Fresh

theorem inStep_sameQuestions [LawfulMergeLookup κ] [LawfulMergeLookup κ'] :
    InStep (SameQuestions : List Area → Overheard κ → Overheard κ' → Prop) where
  start areas := ⟨inStep_bothAgree.start areas, rfl, by rintro q ⟨⟩⟩
  answer h c := inStep_bothAgree.answer h.agree c
  ask {areas k k'} h c := by
    refine ⟨inStep_bothAgree.ask h.agree c, ?_, ?_⟩
    · change k'.questions ++ [⟨areas, c, (MergeLookup.ask areas c k'.lookup).1⟩] = _
      rw [h.questions, inStep_bothAgree.answer h.agree c]
      rfl
    · intro q hq
      rcases List.mem_append.1 hq with hq | hq
      · exact h.fresh q hq
      · obtain rfl := List.mem_singleton.1 hq
        exact LawfulMergeLookup.ask_eq h.agree.1 c
  invalidate h areas' := ⟨inStep_bothAgree.invalidate h.agree areas', h.questions, h.fresh⟩

end Overheard

/-- At every cell that the loops of a pass come to, the cache answers as the merged regions of that
moment do. So in every pass it is asked what a lookup without a cache is asked, and gives the same
answers, and nothing changes in a render and in what is evaluated. -/
theorem render_mergeCache {σ : Type} [Evaluator σ] :
    (∀ (r : Rendering σ) (s : Sheet) (area : Area) (looks : List Look) (p : Pass MergeCache σ)
        (c : CellRef), (r.startPass MergeCache s area).Tour area.topLeft looks p c →
      ∀ x, (MergeLookup.ask p.sheet.merges x p.merges).1 = covered p.sheet.merges x) ∧
    (∀ (r : Rendering σ) (s : Sheet) (area : Area) (c : CellRef) (n : Nat),
      ∃ result cached fresh,
        (r.startPass (Overheard MergeCache) s area).run c n = (result, cached) ∧
        (r.startPass (Overheard Reread) s area).run c n = (result, fresh) ∧
        (r.startPass MergeCache s area).run c n =
          (result, cached.withLookup cached.merges.lookup) ∧
        cached.withLookup fresh.merges = fresh ∧
        fresh.merges.questions = cached.merges.questions ∧
        ∀ q ∈ cached.merges.questions, q.Fresh) ∧
    ∀ (book : Workbook) (engine : σ),
      render book engine = renderWith Reread book engine ∧
        (render book (Recorder.watch engine)).2.engine.calls =
          (renderWith Reread book (Recorder.watch engine)).2.engine.calls := by
  refine ⟨fun r s area looks p c htour => ?_, fun r s area c n => ?_, fun book engine => ?_⟩
  · have hstart : (r.startPass MergeCache s area).Coherent :=
      LawfulMergeLookup.agrees_start s.merges
    exact LawfulMergeLookup.ask_eq (htour.coherent hstart)
  · have hpass := Rendering.alike_startPass (Overheard.inStep_lookup (κ := MergeCache)) r s area
    have hstep : InStep
        (Overheard.SameQuestions : List Area → Overheard MergeCache → Overheard Reread → Prop) :=
      Overheard.inStep_sameQuestions
    have hfresh := Rendering.alike_startPass hstep r s area
    obtain ⟨k, hk, hrun⟩ := hpass.run Overheard.inStep_lookup c n
    obtain ⟨k', hk', hrun'⟩ := hfresh.run hstep c n
    rw [← hrun] at hk' hrun'
    rw [← hrun, ← hrun']
    refine ⟨_, _, _, rfl, rfl, ?_, rfl, hk'.questions, hk'.fresh⟩
    dsimp only [Pass.withLookup]
    rw [show k.lookup = _ from hk]
  · have hrender {τ : Type} [Evaluator τ] (engine : τ) :
        render book engine = renderWith Reread book engine :=
      Rendering.renderSheets_inStep inStep_bothAgree { book, engine } book.sheetNames
    exact ⟨hrender engine, by rw [hrender]⟩

def cornerSheet : Sheet := { sampleSheet with merges := [⟨1, 1, 2, 2⟩] }

theorem render_mergeCache_sample :
    ∃ looks p c,
      (({ book := sampleBook, engine := ⟨[sampleGrid]⟩ } : Rendering Prepared).startPass
          MergeCache cornerSheet ⟨0, 0, 2, 2⟩).Tour ⟨0, 0⟩ looks p c ∧
        p.sheet.merges = [⟨2, 2, 3, 3⟩] ∧
        (MergeLookup.ask p.sheet.merges ⟨1, 1⟩ p.merges).1 = false ∧
        (MergeLookup.ask p.sheet.merges ⟨3, 3⟩ p.merges).1 = true := by
  have htour : ∃ looks p c,
      (({ book := sampleBook, engine := ⟨[sampleGrid]⟩ } : Rendering Prepared).startPass
          MergeCache cornerSheet ⟨0, 0, 2, 2⟩).Tour ⟨0, 0⟩ looks p c ∧
        p.sheet.merges = [⟨2, 2, 3, 3⟩] :=
    ⟨_, _, _, .turn .start (.answer (by decide) (by decide) (by rfl) (by rfl)), by rfl⟩
  obtain ⟨looks, p, c, htour, hmerges⟩ := htour
  have hask := render_mergeCache.1 _ _ _ looks p c htour
  refine ⟨looks, p, c, htour, hmerges, (hask ⟨1, 1⟩).trans ?_, (hask ⟨3, 3⟩).trans ?_⟩
  · rw [hmerges]
    decide
  · rw [hmerges]
    decide

/-- A cache that is not told of a change still answers as before it. -/
example :
    let k := (MergeCache.empty.ask [] ⟨1, 1⟩).2
    (k.ask [⟨0, 0, 1, 1⟩] ⟨1, 1⟩).1 = false ∧
      (k.invalidate.ask [⟨0, 0, 1, 1⟩] ⟨1, 1⟩).1 = true := by
  decide

end SheetTemplate
