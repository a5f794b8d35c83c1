import SheetTemplate.Proofs.Progress

namespace SheetTemplate

/-- Why a pass over `t` stops at formula `s`, having answered those before it: the engine refuses
the formula, and its sheet is filled with the answers, or the style of the formula is unknown. -/
inductive Stopped {σ : Type} [Evaluator σ] (t : Canvas) (engine : σ) (done : List Answer)
    (s : Slot) : SheetError → Canvas → σ → Prop
  | refused {engine' engine'' : σ} {e : EngineError} (answered : Answered engine done engine')
      (eval : Evaluator.evaluate s.formula engine' = (.error e, engine'')) :
      Stopped t engine done s (.engine e) (t.fill done) engine''
  | unstyled {engine' engine'' : σ} {g : Grid} {cell : Cell} {t' : Canvas}
      (answered : Answered engine done engine')
      (eval : Evaluator.evaluate s.formula engine' = (.ok g, engine''))
      (stored : t.sheet.cells[s.pos]? = some cell)
      (style : (t.fill done).styles[cell.style]? = none) :
      Stopped t engine done s (.unknownStyle cell.style) t' engine''

namespace Pass

variable {κ σ : Type} [MergeLookup κ] [Evaluator σ]

/-- From a cell on, a pass answers the next formula and goes on behind it. -/
inductive Step (p : Pass κ σ) (c : CellRef) : Pass κ σ → CellRef → Prop
  | answer {p' p'' : Pass κ σ} {pos : CellRef} {f : Found}
      (found : p.find c = (some (pos, f), p')) (answered : p'.answer pos f = (.ok (), p'')) :
      Step p c p'' ⟨pos.row, pos.col + 1⟩

inductive Reaches (p₀ : Pass κ σ) (c₀ : CellRef) : Pass κ σ → CellRef → Prop
  | start : Reaches p₀ c₀ p₀ c₀
  | step {p p' : Pass κ σ} {c c' : CellRef} (reach : Reaches p₀ c₀ p c) (step : p.Step c p' c') :
      Reaches p₀ c₀ p' c'

theorem Step.run_eq {p p' : Pass κ σ} {c c' : CellRef} (h : p.Step c p' c') (n : Nat) :
    p.run c (n + 1) = p'.run c' n := by
  cases h with
  | answer found answered =>
    rw [run, found]
    dsimp only
    rw [answered]

theorem Step.unique {p p' p'' : Pass κ σ} {c c' c'' : CellRef} (h : p.Step c p' c')
    (h' : p.Step c p'' c'') : p' = p'' ∧ c' = c'' := by
  obtain ⟨found, answered⟩ := h
  obtain ⟨found', answered'⟩ := h'
  cases found.symm.trans found'
  cases answered.symm.trans answered'
  exact ⟨rfl, rfl⟩

variable [LawfulMergeLookup κ] {p₀ p : Pass κ σ} {done : List Answer} {s : Slot}
  {rest : List Slot} {c : CellRef}

inductive Ending (p₀ : Pass κ σ) : Except SheetError Unit → Pass κ σ → Prop
  | finished {done : List Answer} {p : Pass κ σ} (progress : Progress p₀ done p)
      (all : done.map Answer.toSlot = p₀.sheet.slots) : Ending p₀ (.ok ()) p
  | stopped {done : List Answer} {s : Slot} {rest : List Slot} {e : SheetError} {p : Pass κ σ}
      (split : p₀.sheet.slots = done.map Answer.toSlot ++ s :: rest)
      (stop : Stopped p₀.canvas p₀.engine done s e p.canvas p.engine) : Ending p₀ (.error e) p

/-- No formula is left behind the cursor. -/
def Clear (template : Sheet) (done : List Answer) (c : CellRef) : Prop :=
  ∀ s ∈ template.slots, (∀ a ∈ done, a.pos ≠ s.pos) → ¬ (Layout.move done s.pos).Before c

theorem clear_start {template : Sheet} {area : Area} (harea : template.extent? = some area) :
    Clear template [] area.topLeft := by
  rintro s hs - hbefore
  obtain ⟨cell, hcell, -⟩ := Sheet.mem_slots.1 hs
  obtain ⟨hleft, -, htop, -⟩ :=
    Area.mem_def.1 (Sheet.mem_of_extent? harea (Sheet.mem_cells_iff.2 ⟨cell, hcell⟩))
  change CellRef.Before s.pos _ at hbefore
  dsimp only [CellRef.Before, Area.topLeft] at hbefore
  omega

theorem clear_next {template : Sheet} {a : Answer}
    (hsplit : template.slots = done.map Answer.toSlot ++ a.toSlot :: rest) :
    Clear template (done ++ [a])
      ⟨(Layout.move done a.pos).row, (Layout.move done a.pos).col + 1⟩ := by
  intro s hs hnew hbefore
  have hself : Layout.move (done ++ [a]) a.pos = Layout.move done a.pos := by
    rw [Layout.move_concat, Layout.giveWay_self]
  rcases Sheet.OpenedBy.eq_or_before hsplit hs
    fun b hb => hnew b (List.mem_append_left _ hb) with rfl | hafter
  · exact hnew a (List.mem_append_right _ List.mem_cons_self) rfl
  · rw [← Layout.move_before_move_iff (done ++ [a]), hself] at hafter
    dsimp only [CellRef.Before] at hafter hbefore
    omega

theorem answer_spec (h : Progress p₀ done p)
    (hsplit : p₀.sheet.slots = done.map Answer.toSlot ++ s :: rest) :
    (∃ a p', a.toSlot = s ∧ p.answer (Layout.move done s.pos) s.found = (.ok (), p') ∧
        Progress p₀ (done ++ [a]) p') ∨
      ∃ e p', p.answer (Layout.move done s.pos) s.found = (.error e, p') ∧
        Stopped p₀.canvas p₀.engine done s e p'.canvas p'.engine := by
  have hmem : s ∈ p₀.sheet.slots := by simp [hsplit]
  obtain ⟨cell, hcell, -, hmoved⟩ := h.cell_pending hmem (Sheet.OpenedBy.pos_ne hsplit)
  have hstyle : p.sheet.styleAt (Layout.move done s.pos) = cell.style := by
    rw [Sheet.styleAt, Sheet.cellAt_eq_of_getElem? hmoved]
  rcases heval : Evaluator.evaluate s.formula p.engine with ⟨result, engine⟩
  cases result with
  | error e =>
    obtain ⟨journal, hanswer⟩ := answer_of_error (f := s.found) (Layout.move done s.pos) heval
    refine .inr ⟨_, _, hanswer, ?_⟩
    change Stopped _ _ _ _ _ p.canvas engine
    rw [h.canvas]
    exact .refused h.answered heval
  | ok g =>
    obtain ⟨journal, hanswer⟩ := answer_of_ok (f := s.found) (Layout.move done s.pos) heval
    rw [hanswer]
    -- The engine has answered; the grid is written only if the style of the formula is known.
    cases hsome : p.styles[cell.style]? with
    | none =>
      obtain ⟨p', hengine, -, happly⟩ := apply_of_no_style (p := { p with engine, journal })
        h.coherent (Layout.move done s.pos) s.formula.format g (by rwa [hstyle])
      refine .inr ⟨_, p', happly, ?_⟩
      rw [hengine]
      dsimp only
      rw [hstyle]
      rw [h.styles_eq] at hsome
      exact .unstyled h.answered heval hcell hsome
    | some style =>
      obtain ⟨merges, hcoherent, happly⟩ := apply_of_style (p := { p with engine, journal })
        h.coherent (Layout.move done s.pos) ⟨s, g⟩ (hstyle ▸ hsome)
      exact .inl ⟨⟨s, g⟩, _, rfl, happly, h.take (a := ⟨s, g⟩) hsplit heval hcoherent⟩

/-- A pass is at its end, makes a step, or stops at the next formula. -/
theorem Progress.turn (harea : p₀.sheet.extent? = some p₀.area) (h : Progress p₀ done p)
    (hclear : Clear p₀.sheet done c) :
    (∃ p', p.find c = (none, p') ∧ Progress p₀ done p' ∧
        done.map Answer.toSlot = p₀.sheet.slots) ∨
      (∃ a p' c', p.Step c p' c' ∧ Progress p₀ (done ++ [a]) p' ∧
        Clear p₀.sheet (done ++ [a]) c') ∨
      ∃ s rest pos f p' e p'', p.find c = (some (pos, f), p') ∧ p'.answer pos f = (.error e, p'') ∧
        p₀.sheet.slots = done.map Answer.toSlot ++ s :: rest ∧
        Stopped p₀.canvas p₀.engine done s e p''.canvas p''.engine := by
  obtain ⟨rest, hrest⟩ := h.opened
  cases rest with
  | nil =>
    rw [List.append_nil] at hrest
    obtain ⟨p', hidle, hfind⟩ := h.find_end hrest c
    exact .inl ⟨p', hfind, h.idle hidle, hrest⟩
  | cons s rest =>
    have hmem : s ∈ p₀.sheet.slots := by simp [← hrest]
    obtain ⟨p', hidle, hfind⟩ := h.find_next harea hrest.symm
      (hclear s hmem (Sheet.OpenedBy.pos_ne hrest.symm))
    rcases answer_spec (h.idle hidle) hrest.symm with
      ⟨a, p'', rfl, hanswer, hprogress⟩ | ⟨e, p'', hanswer, hstop⟩
    · exact .inr (.inl ⟨a, p'', _, .answer hfind hanswer, hprogress, clear_next hrest.symm⟩)
    · exact .inr (.inr ⟨s, rest, _, _, p', e, p'', hfind, hanswer, hrest.symm, hstop⟩)

theorem Step.progress {p' : Pass κ σ} {c' : CellRef} (hstep : p.Step c p' c')
    (harea : p₀.sheet.extent? = some p₀.area) (h : Progress p₀ done p)
    (hclear : Clear p₀.sheet done c) :
    ∃ a, Progress p₀ (done ++ [a]) p' ∧ Clear p₀.sheet (done ++ [a]) c' := by
  rcases h.turn harea hclear with
    ⟨q, hfind, -⟩ | ⟨a, q, d, hstep', h'⟩ | ⟨s, rest, pos, f, q, e, q', hfind, hanswer, -⟩
  · obtain ⟨found, -⟩ := hstep
    cases found.symm.trans hfind
  · obtain ⟨rfl, rfl⟩ := hstep.unique hstep'
    exact ⟨a, h'⟩
  · obtain ⟨found, answered⟩ := hstep
    cases found.symm.trans hfind
    cases answered.symm.trans hanswer

theorem Reaches.progress {c₀ : CellRef} (hreach : Reaches p₀ c₀ p c)
    (harea : p₀.sheet.extent? = some p₀.area) (h : Progress p₀ [] p₀)
    (hclear : Clear p₀.sheet [] c₀) : ∃ done, Progress p₀ done p ∧ Clear p₀.sheet done c := by
  induction hreach with
  | start => exact ⟨[], h, hclear⟩
  | step _ hstep ih =>
    obtain ⟨done, hprogress, hclear⟩ := ih
    obtain ⟨a, h'⟩ := hstep.progress harea hprogress hclear
    exact ⟨done ++ [a], h'⟩

/-- A run goes on to the end of the template or to the first formula that cannot be answered. -/
theorem Progress.run_ending (harea : p₀.sheet.extent? = some p₀.area) (h : Progress p₀ done p)
    (hclear : Clear p₀.sheet done c) {n : Nat} (hn : p₀.sheet.slots.length ≤ done.length + n) :
    Ending p₀ (p.run c n).1 (p.run c n).2 := by
  induction n generalizing p done c with
  | zero =>
    have hall : done.map Answer.toSlot = p₀.sheet.slots :=
      h.opened.eq_of_length_le (by rwa [List.length_map])
    obtain ⟨p', hidle, hfind⟩ := h.find_end hall c
    rw [run, hfind]
    exact .finished (h.idle hidle) hall
  | succ n ih =>
    rcases h.turn harea hclear with ⟨p', hfind, hprogress, hall⟩ |
      ⟨a, p', c', hstep, hprogress, hclear'⟩ |
      ⟨s, rest, pos, f, p', e, p'', hfind, hanswer, hsplit, hstop⟩
    · rw [run, hfind]
      exact .finished hprogress hall
    · rw [hstep.run_eq]
      apply ih hprogress hclear'
      rw [List.length_append, List.length_singleton]
      omega
    · rw [run, hfind]
      dsimp only
      rw [hanswer]
      exact .stopped hsplit hstop

end Pass

end SheetTemplate
