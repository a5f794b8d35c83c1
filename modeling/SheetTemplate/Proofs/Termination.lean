import SheetTemplate.Proofs.BookRun
import SheetTemplate.Proofs.Sweep

namespace SheetTemplate

namespace Sheet

variable {s : Sheet} {a b : Area} {pos x : CellRef} {format : FormatSpec} {g : Grid}

theorem exists_extent? (h : b ∈ s.pieces) : ∃ a, s.extent? = some a := by
  rw [extent?_eq]
  cases hpieces : s.pieces with
  | nil =>
    rw [hpieces] at h
    cases h
  | cons c rest => exact ⟨_, rfl⟩

theorem mem_writeGrid (h : x ∈ s.cells) : x ∈ (s.writeGrid pos format g).cells := by
  rw [writeGrid_eq_foldl]
  induction g.entries generalizing s with
  | nil => exact h
  | cons e l ih =>
    apply ih
    unfold writeEntry
    split
    · exact Std.TreeMap.mem_insert.2 (.inr h)
    · exact h

/-- Half of an answer makes no extent smaller. -/
theorem within_extent?_writeGrid (h : s.extent? = some a) (hpos : pos ∈ s.cells) :
    ∃ b, ((s.makeRoom pos g).writeGrid pos format g).extent? = some b ∧ a.Within b := by
  have hends := Area.coordinate_of_mem (mem_of_extent? h hpos)
  rw [extent?_eq_some_iff] at h
  have hpiece : ∀ d ∈ s.pieces,
      d.giveWay pos g ∈ ((s.makeRoom pos g).writeGrid pos format g).pieces := by
    intro d hd
    rw [mem_pieces (mem_writeGrid ((s.mem_makeRoom ..).2 ⟨pos, hpos, rfl⟩))]
    rcases (mem_pieces hpos).1 hd with ⟨c, hc, rfl⟩ | hmerge
    · refine .inl ⟨c.giveWay pos g, mem_writeGrid ((s.mem_makeRoom ..).2 ⟨c, hc, rfl⟩), ?_⟩
      exact Area.ofCell_giveWay ..
    · rw [(frame_writeGrid ..).2, merges_makeRoom]
      exact .inr (List.mem_map_of_mem hmerge)
  obtain ⟨d, hd, -⟩ := h.low_eq .row
  obtain ⟨b, hb⟩ := exists_extent? (hpiece d hd)
  refine ⟨b, hb, fun axis => ⟨?_, ?_⟩⟩
  · obtain ⟨d, hd, hlow⟩ := h.low_eq axis
    have hbefore := (hends axis).1
    have hle := (extent?_eq_some_iff.1 hb).low_le axis _ (hpiece d hd)
    rwa [Area.low_giveWay, Area.shiftEnds_fst_of_lt (by omega), hlow] at hle
  · obtain ⟨d, hd, hhigh⟩ := h.high_eq axis
    have hle := (extent?_eq_some_iff.1 hb).le_high axis _ (hpiece d hd)
    rw [Area.high_giveWay] at hle
    rw [← hhigh]
    exact Nat.le_trans Area.le_shiftEnds_snd hle

end Sheet

namespace Pass

variable {κ σ : Type} [MergeLookup κ] {p₀ p p' q : Pass κ σ} {done : List Answer}
  {c : CellRef} {looks : List Look} {look : Option Look} {result : Except SheetError Unit}

theorem visit_of_no_text (h : ∀ x, (p.sheet.valueAt x).text? = none) (c : CellRef) :
    ∃ merges, p.visit c = (none, { p with merges }) := by
  unfold visit skips
  by_cases hc : covered p.written c = true
  · rw [if_pos hc]
    exact ⟨p.merges, rfl⟩
  · rw [if_neg hc]
    refine ⟨(MergeLookup.ask p.sheet.merges c p.merges).2, ?_⟩
    dsimp only
    rw [h c]
    split <;> rfl

theorem findInRow_of_no_text (h : ∀ x, (p.sheet.valueAt x).text? = none) (row n col : Nat) :
    ∃ merges, p.findInRow row n col = (none, { p with merges }) := by
  induction n generalizing p col with
  | zero => exact ⟨p.merges, rfl⟩
  | succ n ih =>
    obtain ⟨merges, hvisit⟩ := visit_of_no_text h ⟨row, col⟩
    rw [findInRow, hvisit]
    exact ih (p := { p with merges }) h (col + 1)

theorem findInRows_of_no_text (h : ∀ x, (p.sheet.valueAt x).text? = none) (n row : Nat) :
    ∃ merges, p.findInRows n row = (none, { p with merges }) := by
  induction n generalizing p row with
  | zero => exact ⟨p.merges, rfl⟩
  | succ n ih =>
    obtain ⟨merges, hrow⟩ := findInRow_of_no_text h row p.area.width p.area.left
    rw [findInRows, hrow]
    exact ih (p := { p with merges }) h (row + 1)

theorem find_of_no_text (h : ∀ x, (p.sheet.valueAt x).text? = none) (c : CellRef) :
    ∃ merges, p.find c = (none, { p with merges }) := by
  obtain ⟨merges, hrow⟩ := findInRow_of_no_text h c.row (p.area.right + 1 - c.col) c.col
  rw [find, hrow]
  exact findInRows_of_no_text (p := { p with merges }) h _ _

variable [Evaluator σ]

/-- Where no row has cells, the loops look at none. -/
theorem exists_tour_of_narrow (h : ¬ (p.area.left ≤ p.area.right ∧ p.area.top ≤ p.area.bottom)) :
    ∃ d, p.Tour p.area.topLeft [] p d ∧ p.Halt d none (.ok ()) p := by
  by_cases hrows : p.area.top ≤ p.area.bottom
  · have hcol : p.area.right < p.area.left := by omega
    have htour : ∀ n, p.area.top + n ≤ p.area.bottom + 1 →
        p.Tour p.area.topLeft [] p ⟨p.area.top + n, p.area.left⟩ := by
      intro n hn
      induction n with
      | zero => exact .start
      | succ n ih =>
        have hnext : p.Turn ⟨p.area.top + n, p.area.left⟩ none p
            ⟨p.area.top + n + 1, p.area.left⟩ := .nextRow (by dsimp only; omega) hcol
        exact (ih (by omega)).turn hnext
    refine ⟨_, htour (p.area.bottom + 1 - p.area.top) (by omega), .finished ?_⟩
    dsimp only
    omega
  · exact ⟨_, .start, .finished (Nat.lt_of_not_le hrows)⟩

variable [LawfulMergeLookup κ]

theorem Progress.area_wide (h : Progress p₀ done p) (hwide : p₀.area.left ≤ p₀.area.right) :
    p.area.left ≤ p.area.right := by
  rw [h.area]
  exact Nat.le_add_right_of_le hwide

/-- The loops come to an end, and it is the end of the run. -/
theorem Progress.exists_tour (harea : p₀.sheet.extent? = some p₀.area)
    (hwide : p₀.area.left ≤ p₀.area.right) (h : Progress p₀ done p)
    (hclear : Clear p₀.sheet done c) (hrow : c.row ≤ p.area.bottom) {n : Nat}
    (hn : p₀.sheet.slots.length ≤ done.length + n) :
    ∃ looks p' d look, p.Tour c looks p' d ∧ p'.Halt d look (p.run c n).1 (p.run c n).2 := by
  -- On the number of formulas that may be left: every answer takes one away.
  induction n generalizing p done c with
  | zero =>
    have hall : done.map Answer.toSlot = p₀.sheet.slots :=
      h.opened.eq_of_length_le (by rwa [List.length_map])
    obtain ⟨p', -, hfind⟩ := h.find_end hall c
    have hseek := sought_find h.coherent (h.area_wide hwide) hrow
    rw [run]
    rw [hfind] at hseek ⊢
    cases hseek with
    | missed tour area => exact ⟨_, _, _, _, tour, .finished (area ▸ Nat.lt_succ_self _)⟩
  | succ n ih =>
    have hseek := sought_find h.coherent (h.area_wide hwide) hrow
    rw [run]
    rcases hfind : p.find c with ⟨found, p'⟩
    rw [hfind] at hseek
    cases hseek with
    | missed tour area => exact ⟨_, _, _, _, tour, .finished (area ▸ Nat.lt_succ_self _)⟩
    | @met looks p₁ _ pos f tour area row col visit =>
      have hrow₁ : pos.row ≤ p₁.area.bottom := by rwa [area]
      have hcol₁ : pos.col ≤ p₁.area.right := by rwa [area]
      dsimp only
      rcases hanswer : p'.answer pos f with ⟨result, p''⟩
      cases result with
      | error e => exact ⟨_, _, _, _, tour, .failed hrow₁ hcol₁ visit hanswer⟩
      | ok _ =>
        have hturn : p₁.Turn pos _ p'' ⟨pos.row, pos.col + 1⟩ :=
          .answer hrow₁ hcol₁ visit hanswer
        obtain ⟨a, hprogress, hclear'⟩ := (Step.answer hfind hanswer).progress harea h hclear
        have hrow' : pos.row ≤ p''.area.bottom := by
          have hwithin := (p₀.area.within_grow_concat done a .row).2
          rw [← h.area, ← hprogress.area] at hwithin
          exact Nat.le_trans row hwithin
        have hleft : p₀.sheet.slots.length ≤ (done ++ [a]).length + n := by
          rw [List.length_append, List.length_singleton]
          omega
        obtain ⟨more, q, d, look, hmore, hhalt⟩ := ih hprogress hclear' hrow' hleft
        exact ⟨_, q, d, look, (tour.trans hturn.tour).trans hmore, hhalt⟩

/-- What a refused answer leaves of the sheet. -/
theorem extent?_of_answer_error {f : Found} {e : SheetError} (h : p.Coherent)
    (harea : p.sheet.extent? = some p.area) (hc : c ∈ p.sheet.cells)
    (hanswer : p.answer c f = (.error e, q)) :
    q.sheet.name = p.sheet.name ∧ ∃ area, q.sheet.extent? = some area ∧ p.area.Within area := by
  rcases heval : Evaluator.evaluate f.formula p.engine with ⟨result, engine⟩
  cases result with
  | error e' =>
    obtain ⟨journal, hspec⟩ := answer_of_error c heval
    cases hanswer.symm.trans hspec
    exact ⟨rfl, p.area, harea, .refl _⟩
  | ok g =>
    obtain ⟨journal, hspec⟩ := answer_of_ok c heval
    cases hstyle : p.styles[p.sheet.styleAt c]? with
    | none =>
      obtain ⟨p', -, hsheet, happly⟩ :=
        apply_of_no_style (p := { p with engine, journal }) h c f.formula.format g hstyle
      cases hanswer.symm.trans (hspec.trans happly)
      rw [hsheet]
      refine ⟨?_, Sheet.within_extent?_writeGrid harea hc⟩
      rw [(Sheet.frame_writeGrid ..).1, Sheet.name_makeRoom]
    | some style =>
      obtain ⟨merges, -, happly⟩ := apply_of_style (p := { p with engine, journal }) h c
        ⟨⟨c, f.text, f.formula⟩, g⟩ hstyle
      cases hanswer.symm.trans (hspec.trans happly)

/-- At their end the loops have looked at no more cells than the extent has, and have evaluated no
more formulas than the template has texts. -/
theorem Swept.halt (harea : p₀.sheet.extent? = some p₀.area) (h : Swept p₀ done looks p c)
    (hhalt : p.Halt c look result q) :
    q.sheet.name = p₀.sheet.name ∧
      ((looks ++ look.toList).filterMap (·.evaluated)).length ≤ p₀.sheet.textCount ∧
      ∃ area, q.sheet.extent? = some area ∧
        (looks ++ look.toList).length ≤ area.width * area.height := by
  have hextent := h.progress.extent harea
  cases hhalt with
  | finished row =>
    rw [Option.toList_none, List.append_nil]
    refine ⟨h.progress.laid.name, ?_, p.area, hextent, length_looks_le h.sorted h.inside⟩
    rw [h.evaluated]
    exact h.progress.length_le
  | @failed p' _ f e row col visit answered =>
    obtain ⟨_, hidle, hvisit⟩ := visit_spec h.progress.coherent c
    obtain ⟨hfound, rfl⟩ := Prod.mk.inj (visit.symm.trans hvisit)
    obtain ⟨s, hslot, -⟩ := Option.map_eq_some_iff.1 hfound.symm
    obtain ⟨t, ht, hnew, hpos⟩ := h.progress.pending_of_slotAt hslot
    obtain ⟨cell, -, -, hcell⟩ := h.progress.cell_pending ht hnew
    rw [hpos] at hcell
    have hsheet : p'.sheet = p.sheet := by rw [hidle.2]
    obtain ⟨hname, area, hfinal, hwithin⟩ := extent?_of_answer_error hidle.1
      (by rw [hsheet, hidle.area_eq, hextent])
      (by rw [hsheet]; exact Sheet.mem_cells_iff.2 ⟨cell, hcell⟩) answered
    rw [hidle.area_eq] at hwithin
    refine ⟨?_, ?_, area, hfinal, ?_⟩
    · rw [hname, hsheet, h.progress.laid.name]
    · rw [List.filterMap_append, List.length_append, h.evaluated]
      exact h.progress.length_lt hslot
    · apply length_looks_le (h.sorted_concat rfl)
      intro k hk
      exact hwithin.mem (h.inside_concat rfl row col k hk)

end Pass

structure Sweep where
  template : Sheet
  looks : List Look
  final : Sheet

namespace Sweep

def evaluations (w : Sweep) : List Formula := w.looks.filterMap (·.evaluated)

/-- The loops do nothing on an empty sheet; on another they look at no more cells than its final
extent has. They evaluate no more formulas than the template has text cells. -/
structure Bounded (w : Sweep) : Prop where
  empty : w.template.extent? = none → w.looks = []
  looks_le : ∀ a, w.template.extent? = some a →
    ∃ area, w.final.extent? = some area ∧ w.looks.length ≤ area.width * area.height
  evaluations_le : w.evaluations.length ≤ w.template.textCount

end Sweep

namespace Rendering

variable {σ : Type} [Evaluator σ]

inductive Sweeps (κ : Type) [MergeLookup κ] (r : Rendering σ) (s : Sheet) :
    Sweep → Except SheetError Unit → Rendering σ → Prop
  | empty (extent : s.extent? = none) :
      Sweeps κ r s ⟨s, [], s⟩ (.ok ())
        (r.addLine ⟨.debug, Pass.topic, "sheet " ++ s.name ++ " is empty"⟩)
  | loops {area : Area} {looks : List Look} {p q : Pass κ σ} {c : CellRef} {look : Option Look}
      {result : Except SheetError Unit} (extent : s.extent? = some area)
      (tour : (r.startPass κ s area).Tour area.topLeft looks p c)
      (halt : p.Halt c look result q) :
      Sweeps κ r s ⟨s, looks ++ look.toList, q.sheet⟩ result (r.ofPass q)

/-- The loops of a render over the sheets of some names, up to the first error. -/
inductive Renders (κ : Type) [MergeLookup κ] :
    Rendering σ → List String → List Sweep → Except SheetError Unit → Rendering σ → Prop
  | done (r : Rendering σ) : Renders κ r [] [] (.ok ()) r
  | unknown {r : Rendering σ} {name : String} {rest : List String} {e : SheetError}
      (sheet : r.book.sheet name = .error e) : Renders κ r (name :: rest) [] (.error e) r
  | failed {r r' : Rendering σ} {name : String} {rest : List String} {s : Sheet} {w : Sweep}
      {e : SheetError} (sheet : r.book.sheet name = .ok s) (sweep : r.Sweeps κ s w (.error e) r') :
      Renders κ r (name :: rest) [w] (.error e) r'
  | next {r r' r'' : Rendering σ} {name : String} {rest : List String} {s : Sheet} {w : Sweep}
      {sweeps : List Sweep} {result : Except SheetError Unit} (sheet : r.book.sheet name = .ok s)
      (sweep : r.Sweeps κ s w (.ok ()) r')
      (tail : Renders κ (r'.finishSheet name r.stats.formulas) rest sweeps result r'') :
      Renders κ r (name :: rest) (w :: sweeps) result r''

section Unique

variable {κ : Type} [MergeLookup κ] {r r' r'' : Rendering σ} {s : Sheet} {w w' : Sweep}
  {result result' : Except SheetError Unit}

theorem Sweeps.unique (h : r.Sweeps κ s w result r') (h' : r.Sweeps κ s w' result' r'') :
    w = w' ∧ result = result' ∧ r' = r'' := by
  cases h with
  | empty extent =>
    cases h' with
    | empty => exact ⟨rfl, rfl, rfl⟩
    | loops extent' => cases extent.symm.trans extent'
  | loops extent tour halt =>
    cases h' with
    | empty extent' => cases extent.symm.trans extent'
    | loops extent' tour' halt' =>
      cases extent.symm.trans extent'
      obtain ⟨rfl, rfl, rfl⟩ := tour.unique halt tour' halt'
      obtain ⟨rfl, rfl, rfl⟩ := halt.unique halt'
      exact ⟨rfl, rfl, rfl⟩

theorem Renders.unique {names : List String} {sweeps sweeps' : List Sweep}
    (h : Renders κ r names sweeps result r') (h' : Renders κ r names sweeps' result' r'') :
    sweeps = sweeps' ∧ result = result' ∧ r' = r'' := by
  induction h generalizing sweeps' result' r'' with
  | done => cases h'; exact ⟨rfl, rfl, rfl⟩
  | unknown sheet =>
    cases h' with
    | unknown sheet' => cases sheet.symm.trans sheet'; exact ⟨rfl, rfl, rfl⟩
    | failed sheet' => cases sheet.symm.trans sheet'
    | next sheet' => cases sheet.symm.trans sheet'
  | failed sheet sweep =>
    cases h' with
    | unknown sheet' => cases sheet.symm.trans sheet'
    | failed sheet' sweep' =>
      cases sheet.symm.trans sheet'
      obtain ⟨rfl, heq, rfl⟩ := sweep.unique sweep'
      exact ⟨rfl, heq, rfl⟩
    | next sheet' sweep' =>
      cases sheet.symm.trans sheet'
      cases (sweep.unique sweep').2.1
  | next sheet sweep _ ih =>
    cases h' with
    | unknown sheet' => cases sheet.symm.trans sheet'
    | failed sheet' sweep' =>
      cases sheet.symm.trans sheet'
      cases (sweep.unique sweep').2.1
    | next sheet' sweep' tail' =>
      cases sheet.symm.trans sheet'
      obtain ⟨rfl, -, rfl⟩ := sweep.unique sweep'
      obtain ⟨rfl, rfl, rfl⟩ := ih tail'
      exact ⟨rfl, rfl, rfl⟩

end Unique

variable (κ : Type) [MergeLookup κ] [LawfulMergeLookup κ] {r : Rendering σ} {s : Sheet}
  {front later : List Sheet}

theorem exists_tour_startPass (r : Rendering σ) {area : Area} (harea : s.extent? = some area) :
    ∃ looks p c look q, (r.startPass κ s area).Tour area.topLeft looks p c ∧
      p.Halt c look ((r.startPass κ s area).run area.topLeft s.textCount).1 q ∧
      r.ofPass ((r.startPass κ s area).run area.topLeft s.textCount).2 = r.ofPass q := by
  by_cases hwide : area.left ≤ area.right ∧ area.top ≤ area.bottom
  · obtain ⟨looks, p, c, look, htour, hhalt⟩ := (progress_startPass κ r s area).exists_tour harea
      hwide.1 (Pass.clear_start harea) hwide.2 (n := s.textCount) (by
        rw [List.length_nil, Nat.zero_add]
        exact s.length_slots_le)
    exact ⟨looks, p, c, look, _, htour, hhalt, rfl⟩
  · -- A merged region with its ends in disorder is all that the sheet has.
    have hcells : ∀ x, x ∉ s.cells := by
      intro x hx
      obtain ⟨hleft, hright, htop, hbottom⟩ := Area.mem_def.1 (Sheet.mem_of_extent? harea hx)
      exact hwide ⟨Nat.le_trans hleft hright, Nat.le_trans htop hbottom⟩
    have htext : ∀ x, (s.valueAt x).text? = none := by
      intro x
      rw [Sheet.valueAt, Sheet.cellAt, Std.TreeMap.getElem?_eq_none (hcells x)]
      rfl
    have hcount : s.textCount = 0 := by
      rw [Sheet.textCount, List.length_eq_zero_iff, List.filter_eq_nil_iff]
      rintro ⟨x, cell⟩ hx
      rw [Std.TreeMap.mem_toList_iff_getElem?_eq_some] at hx
      exact absurd (Sheet.mem_cells_iff.2 ⟨cell, hx⟩) (hcells x)
    obtain ⟨merges, hfind⟩ :=
      Pass.find_of_no_text (p := r.startPass κ s area) htext area.topLeft
    obtain ⟨d, htour, hhalt⟩ := Pass.exists_tour_of_narrow (p := r.startPass κ s area) hwide
    rw [hcount, Pass.run, hfind]
    exact ⟨[], _, d, none, _, htour, hhalt, rfl⟩

/-- The loops over one sheet end with what `renderSheet` gives. -/
theorem exists_sweeps (h : r.book.sheets = front ++ s :: later) :
    ∃ w, r.Sweeps κ s w (r.renderSheet κ s).1 (r.renderSheet κ s).2 ∧ w.Bounded ∧
      w.template = s ∧ (r.renderSheet κ s).2.book.sheets = front ++ w.final :: later := by
  unfold renderSheet
  cases harea : s.extent? with
  | none =>
    refine ⟨_, .empty harea, ⟨fun _ => rfl, ?_, Nat.zero_le _⟩, rfl, h⟩
    intro a ha
    cases harea.symm.trans ha
  | some area =>
    obtain ⟨looks, p, c, look, q, htour, hhalt, hofPass⟩ := exists_tour_startPass κ r harea
    obtain ⟨done, hswept⟩ := htour.swept harea (progress_startPass κ r s area)
    obtain ⟨hname, hevaluated, hlooks⟩ := hswept.halt harea hhalt
    dsimp only
    rw [hofPass]
    refine ⟨_, .loops harea htour hhalt, ⟨?_, fun _ _ => hlooks, hevaluated⟩, rfl, ?_⟩
    · intro hnone
      cases harea.symm.trans hnone
    · exact Workbook.updateFirst_of_split h hname

theorem exists_renders (h : r.book.sheets = front ++ later) :
    ∃ sweeps rest, later = sweeps.map (·.template) ++ rest ∧ (∀ w ∈ sweeps, w.Bounded) ∧
      (r.renderSheets κ (later.map (·.name))).2.book.sheets =
        front ++ sweeps.map (·.final) ++ rest ∧
      Renders κ r (later.map (·.name)) sweeps (r.renderSheets κ (later.map (·.name))).1
        (r.renderSheets κ (later.map (·.name))).2 := by
  induction later generalizing r front with
  | nil =>
    refine ⟨[], [], rfl, by simp, ?_, .done r⟩
    simpa [renderSheets] using h
  | cons s later ih =>
    have hsheet := Workbook.sheet_of_split h
    obtain ⟨w, hsweeps, hbounded, rfl, hsheets⟩ := exists_sweeps κ h
    rw [List.map_cons, renderSheets, hsheet]
    dsimp only
    rcases hrender : r.renderSheet κ w.template with ⟨result, r'⟩
    rw [hrender] at hsweeps hsheets
    cases result with
    | error e =>
      refine ⟨[w], later, rfl, by simpa using hbounded, ?_, .failed hsheet hsweeps⟩
      rw [hsheets, List.append_assoc]
      rfl
    | ok _ =>
      have hfront : (r'.finishSheet w.template.name r.stats.formulas).book.sheets =
          (front ++ [w.final]) ++ later := by
        rw [List.append_assoc]
        exact hsheets
      obtain ⟨sweeps, rest, hlater, hall, hfinal, htail⟩ := ih hfront
      refine ⟨w :: sweeps, rest, by rw [hlater]; rfl, ?_, ?_, .next hsheet hsweeps htail⟩
      · exact List.forall_mem_cons.2 ⟨hbounded, hall⟩
      · rw [hfinal, List.append_assoc, List.append_assoc, List.append_assoc]
        rfl

end Rendering

/-- Whatever the engine answers, the loops of a render come to an end, which is what `render`
gives. On every sheet that they come to they look at no more cells than the final extent has, and
evaluate no more formulas than the template has text cells. -/
theorem render_terminates {σ : Type} [Evaluator σ] (book : Workbook) (engine : σ) :
    ∃ sweeps rest result r, render book engine = (result, r) ∧
      Rendering.Renders MergeCache { book, engine } book.sheetNames sweeps result r ∧
      (∀ sweeps' result' r',
        Rendering.Renders MergeCache { book, engine } book.sheetNames sweeps' result' r' →
          sweeps' = sweeps ∧ result' = result ∧ r' = r) ∧
      book.sheets = sweeps.map (·.template) ++ rest ∧
      r.book.sheets = sweeps.map (·.final) ++ rest ∧ ∀ w ∈ sweeps, w.Bounded := by
  obtain ⟨sweeps, rest, hsheets, hbounded, hfinal, hrenders⟩ :=
    Rendering.exists_renders MergeCache (r := { book, engine }) (List.nil_append book.sheets).symm
  refine ⟨sweeps, rest, _, _, rfl, hrenders, ?_, hsheets, hfinal, hbounded⟩
  intro sweeps' result' r' h'
  exact h'.unique hrenders

end SheetTemplate
