import SheetTemplate.Proofs.BookRun
import SheetTemplate.Proofs.Recording

namespace SheetTemplate

/-- Formula `f` cannot be answered once the formulas `before` it are: the engine refuses it, or its
answer is not written because its style is not in the table. -/
inductive Fails {σ : Type} [Evaluator σ] (book : Workbook) (engine : σ) (before : List Slot)
    (f : Slot) (engine'' : σ) : SheetError → Prop
  | refused {answers : List Answer} {engine' : σ} {e : EngineError}
      (slots : answers.map Answer.toSlot = before) (answered : Answered engine answers engine')
      (eval : Evaluator.evaluate f.formula engine' = (.error e, engine'')) :
      Fails book engine before f engine'' (.engine e)
  | unstyled {answers : List Answer} {engine' : σ} {g : Grid} {s : Sheet} {cell : Cell}
      (slots : answers.map Answer.toSlot = before) (answered : Answered engine answers engine')
      (eval : Evaluator.evaluate f.formula engine' = (.ok g, engine''))
      (sheet : s ∈ book.sheets) (slot : f ∈ s.slots)
      (stored : s.cells[f.pos]? = some cell) (style : book.styles.length ≤ cell.style) :
      Fails book engine before f engine'' (.unknownStyle cell.style)

/-- The watched render is the render itself; the formulas handed to the engine are all formulas of
the book in their order, or those up to the one that fails. -/
theorem render_calls {σ : Type} [Evaluator σ] (book : Workbook) (engine : σ) :
    (∀ s : Sheet, s.slots.Pairwise (fun a b => a.pos.Before b.pos) ∧
        ∀ x, x ∈ s.slots ↔ ∃ cell, s.cells[x.pos]? = some cell ∧ cell.value = .text x.text ∧
          Formula.ofText? x.text = some x.formula ∧ covered s.merges x.pos = false) ∧
      ∃ result r, render book (Recorder.watch engine) = (result, r) ∧
        render book engine = (result, r.project Recorder.engine) ∧
        (result = .ok () ∧ r.engine.calls = book.slots.map (·.formula) ∨
          ∃ e before f after, result = .error e ∧ book.slots = before ++ f :: after ∧
            r.engine.calls = (before ++ [f]).map (·.formula) ∧
            Fails book engine before f r.engine.engine e) := by
  refine ⟨fun s => ⟨s.slots_pairwise, fun x => Sheet.mem_slots⟩, ?_⟩
  have hproject := render_project Recorder.imitates_engine book (Recorder.watch engine)
  rcases hrender : render book (Recorder.watch engine) with ⟨result, r⟩
  rw [hrender] at hproject
  refine ⟨result, r, rfl, hproject, ?_⟩
  cases render_ending hrender with
  | @finished parts _ progress =>
    have hslots := Workbook.slots_of_parts progress.templates progress.complete
    obtain ⟨hcalls, -⟩ := Recorder.calls_of_answered progress.answered
    refine .inl ⟨rfl, ?_⟩
    rw [hcalls, hslots, List.flatMap_nil, List.append_nil]
    rfl
  | @refused parts q later f pending e watched _ templates complete split answered eval =>
    obtain ⟨hbefore, hanswered⟩ := Recorder.calls_of_answered answered
    obtain ⟨hcalls, heval⟩ := Recorder.calls_of_evaluate eval
    refine .inr ⟨_, _, f, _, rfl, Workbook.slots_of_split templates complete split, ?_,
      .refused rfl hanswered heval⟩
    rw [hcalls, hbefore, List.map_append]
    rfl
  | @unstyled parts q later f pending cell g watched _ templates complete split answered eval
      stored style =>
    obtain ⟨hbefore, hanswered⟩ := Recorder.calls_of_answered answered
    obtain ⟨hcalls, heval⟩ := Recorder.calls_of_evaluate eval
    refine .inr ⟨_, _, f, _, rfl, Workbook.slots_of_split templates complete split, ?_,
      .unstyled (s := q.template) rfl hanswered heval ?_ ?_ stored ?_⟩
    · rw [hcalls, hbefore, List.map_append]
      rfl
    · simp [show book.sheets = _ from templates]
    · simp [split]
    · rw [List.getElem?_eq_none_iff] at style
      exact Nat.le_trans (length_styles_fillParts _ _) style

instance : Language Prepared where
  name _ := "x"
  bind _ e := (.ok (), e)
  evaluate _ _ _ e := e.next

/-- The small book; its table of styles does not have the style of the first formula. -/
def danglingBook : Workbook := { sheets := [sampleSheet.setStyleAt 9 ⟨0, 0⟩] }

def preparedRegistry : Registry Prepared := Registry.initial.register ⟨[sampleGrid, sampleGrid]⟩

/-- The formulas need not be handed out up to the last one or to one that the engine refuses: a
style that is missing from the table stops the render behind an answer. -/
theorem not_forall_calls_or_refused :
    ¬ ∀ (book : Workbook) (registry : Registry Prepared),
      let r := (render book (Recorder.watch registry)).2
      r.engine.calls = book.slots.map (·.formula) ∨
        ∃ before f after answers engine' e, book.slots = before ++ f :: after ∧
          r.engine.calls = (before ++ [f]).map (·.formula) ∧
          answers.map Answer.toSlot = before ∧ Answered registry answers engine' ∧
          Evaluator.evaluate f.formula engine' = (.error e, r.engine.engine) := by
  intro h
  have hcalls :
      (render danglingBook (Recorder.watch preparedRegistry)).2.engine.calls.length = 1 := by rfl
  have hanswers :
      danglingBook.slots.map (fun f => (Evaluator.evaluate f.formula preparedRegistry).1) =
        [.ok sampleGrid, .ok sampleGrid] := by rfl
  rcases h danglingBook preparedRegistry with
    hall | ⟨before, f, after, answers, engine, e, hslots, hbefore, rfl, hanswered, heval⟩
  · have hlength := congrArg List.length hanswers
    rw [hall, List.length_map] at hcalls
    rw [List.length_map, hcalls] at hlength
    contradiction
  · -- Only one formula was handed out, so nothing was answered before it.
    rw [hbefore, List.length_map, List.length_append, List.length_map] at hcalls
    obtain rfl : answers = [] := List.length_eq_zero_iff.1 (Nat.succ_inj.1 hcalls)
    cases hanswered
    rw [List.map_nil, List.nil_append] at hslots
    rw [hslots, List.map_cons, heval] at hanswers
    cases hanswers

end SheetTemplate
