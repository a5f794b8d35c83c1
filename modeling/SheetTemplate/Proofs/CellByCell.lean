import SheetTemplate.Proofs.PassRun

namespace SheetTemplate

structure Look where
  cell : CellRef
  evaluated : Option Formula

namespace Pass

theorem find_of_visit {κ σ : Type} [MergeLookup κ] {p p' : Pass κ σ} {c : CellRef} {f : Found}
    (hcol : c.col ≤ p.area.right) (h : p.visit c = (some f, p')) :
    p.find c = (some (c, f), p') := by
  have hcount : p.area.right + 1 - c.col = (p.area.right - c.col) + 1 := by omega
  rw [find, hcount, findInRow, h]

variable {κ σ : Type} [MergeLookup κ] [Evaluator σ]

/-- One turn of the loops at cell `c`: the row is at its end, or the cell is looked at. -/
inductive Turn (p : Pass κ σ) (c : CellRef) : Option Look → Pass κ σ → CellRef → Prop
  | nextRow (row : c.row ≤ p.area.bottom) (col : p.area.right < c.col) :
      Turn p c none p ⟨c.row + 1, p.area.left⟩
  | passOver {p' : Pass κ σ} (row : c.row ≤ p.area.bottom) (col : c.col ≤ p.area.right)
      (visit : p.visit c = (none, p')) : Turn p c (some ⟨c, none⟩) p' ⟨c.row, c.col + 1⟩
  | answer {p' p'' : Pass κ σ} {f : Found} (row : c.row ≤ p.area.bottom)
      (col : c.col ≤ p.area.right) (visit : p.visit c = (some f, p'))
      (answered : p'.answer c f = (.ok (), p'')) :
      Turn p c (some ⟨c, some f.formula⟩) p'' ⟨c.row, c.col + 1⟩

/-- The loops end at cell `c`, behind the last row or with a formula that cannot be answered. -/
inductive Halt (p : Pass κ σ) (c : CellRef) :
    Option Look → Except SheetError Unit → Pass κ σ → Prop
  | finished (row : p.area.bottom < c.row) : Halt p c none (.ok ()) p
  | failed {p' p'' : Pass κ σ} {f : Found} {e : SheetError} (row : c.row ≤ p.area.bottom)
      (col : c.col ≤ p.area.right) (visit : p.visit c = (some f, p'))
      (answered : p'.answer c f = (.error e, p'')) :
      Halt p c (some ⟨c, some f.formula⟩) (.error e) p''

/-- Some turns of the loops, with the cells that are looked at on the way. -/
inductive Tour (p₀ : Pass κ σ) (c₀ : CellRef) : List Look → Pass κ σ → CellRef → Prop
  | start : Tour p₀ c₀ [] p₀ c₀
  | turn {looks : List Look} {look : Option Look} {p p' : Pass κ σ} {c c' : CellRef}
      (tour : Tour p₀ c₀ looks p c) (turn : p.Turn c look p' c') :
      Tour p₀ c₀ (looks ++ look.toList) p' c'

variable {p p' p'' q : Pass κ σ} {c c' c'' d : CellRef} {look look' : Option Look}
  {looks more : List Look} {result result' : Except SheetError Unit}

theorem Turn.unique (h : p.Turn c look p' c') (h' : p.Turn c look' p'' c'') :
    look = look' ∧ p' = p'' ∧ c' = c'' := by
  cases h with
  | nextRow row col =>
    cases h' with
    | nextRow => exact ⟨rfl, rfl, rfl⟩
    | passOver _ col' => omega
    | answer _ col' => omega
  | passOver row col visit =>
    cases h' with
    | nextRow _ col' => omega
    | passOver _ _ visit' =>
      cases visit.symm.trans visit'
      exact ⟨rfl, rfl, rfl⟩
    | answer _ _ visit' => cases visit.symm.trans visit'
  | answer row col visit answered =>
    cases h' with
    | nextRow _ col' => omega
    | passOver _ _ visit' => cases visit.symm.trans visit'
    | answer _ _ visit' answered' =>
      cases visit.symm.trans visit'
      cases answered.symm.trans answered'
      exact ⟨rfl, rfl, rfl⟩

theorem Halt.not_turn (h : p.Halt c look result q) : ¬ p.Turn c look' p' c' := by
  intro hturn
  cases h with
  | finished row => cases hturn <;> omega
  | failed row col visit answered =>
    cases hturn with
    | nextRow _ col' => omega
    | passOver _ _ visit' => cases visit.symm.trans visit'
    | answer _ _ visit' answered' =>
      cases visit.symm.trans visit'
      cases answered.symm.trans answered'

theorem Halt.unique (h : p.Halt c look result q) (h' : p.Halt c look' result' p') :
    look = look' ∧ result = result' ∧ q = p' := by
  cases h with
  | finished row =>
    cases h' with
    | finished => exact ⟨rfl, rfl, rfl⟩
    | failed row' => omega
  | failed row col visit answered =>
    cases h' with
    | finished row' => omega
    | failed _ _ visit' answered' =>
      cases visit.symm.trans visit'
      cases answered.symm.trans answered'
      exact ⟨rfl, rfl, rfl⟩

theorem Tour.trans (h : p.Tour c looks p' c') (h' : p'.Tour c' more q d) :
    p.Tour c (looks ++ more) q d := by
  induction h' with
  | start => rwa [List.append_nil]
  | turn _ turn ih =>
    rw [← List.append_assoc]
    exact ih.turn turn

theorem Turn.tour (h : p.Turn c look p' c') : p.Tour c look.toList p' c' := .turn .start h

/-- A tour is at its start, or its first turn is the one that the loops make there. -/
theorem Tour.start_or_turn (h : p.Tour c looks q d) :
    (looks = [] ∧ q = p ∧ d = c) ∨ ∃ look more p' c', looks = look.toList ++ more ∧
      p.Turn c look p' c' ∧ p'.Tour c' more q d := by
  induction h with
  | start => exact .inl ⟨rfl, rfl, rfl⟩
  | turn _ turn ih =>
    rcases ih with ⟨rfl, rfl, rfl⟩ | ⟨look, more, p', c', rfl, first, rest⟩
    · exact .inr ⟨_, [], _, _, (List.append_nil _).symm, turn, .start⟩
    · exact .inr ⟨look, _, p', c', List.append_assoc .., first, rest.turn turn⟩

/-- Where the loops end, all their ways lead. -/
theorem Tour.leads (hend : p.Tour c looks q d) (hhalt : q.Halt d look result p'')
    (h : p.Tour c more p' c') : ∃ rest, looks = more ++ rest ∧ p'.Tour c' rest q d := by
  induction h with
  | start => exact ⟨looks, rfl, hend⟩
  | turn _ turn ih =>
    obtain ⟨rest, rfl, hrest⟩ := ih
    rcases hrest.start_or_turn with ⟨-, rfl, rfl⟩ | ⟨_, rest', _, _, rfl, first, hrest'⟩
    · exact absurd turn hhalt.not_turn
    · obtain ⟨rfl, rfl, rfl⟩ := first.unique turn
      exact ⟨rest', (List.append_assoc ..).symm, hrest'⟩

theorem Tour.unique {p₁ q₁ : Pass κ σ} {c₁ : CellRef} (h : p.Tour c looks q d)
    (hhalt : q.Halt d look result p') (h' : p.Tour c more p₁ c₁)
    (hhalt' : p₁.Halt c₁ look' result' q₁) : looks = more ∧ q = p₁ ∧ d = c₁ := by
  obtain ⟨rest, rfl, hrest⟩ := h.leads hhalt h'
  rcases hrest.start_or_turn with ⟨rfl, rfl, rfl⟩ | ⟨_, _, _, _, _, turn, _⟩
  · exact ⟨List.append_nil _, rfl, rfl⟩
  · exact absurd turn hhalt'.not_turn

inductive Sought (p : Pass κ σ) (c goal : CellRef) : Option (CellRef × Found) → Pass κ σ → Prop
  | missed {looks : List Look} {q : Pass κ σ} (tour : p.Tour c looks q goal)
      (area : q.area = p.area) : Sought p c goal none q
  | met {looks : List Look} {p' q : Pass κ σ} {pos : CellRef} {f : Found}
      (tour : p.Tour c looks p' pos) (area : p'.area = p.area) (row : pos.row ≤ p.area.bottom)
      (col : pos.col ≤ p.area.right) (visit : p'.visit pos = (some f, q)) :
      Sought p c goal (some (pos, f)) q

theorem Sought.after {goal : CellRef} {found : Option (CellRef × Found)}
    (htour : p.Tour c looks p' c') (harea : p'.area = p.area) (h : p'.Sought c' goal found q) :
    p.Sought c goal found q := by
  cases h with
  | missed tour area => exact .missed (htour.trans tour) (area.trans harea)
  | met tour area row col visit =>
    rw [harea] at row col
    exact .met (htour.trans tour) (area.trans harea) row col visit

variable [LawfulMergeLookup κ]

theorem sought_findInRow (h : p.Coherent) (row n col : Nat) (hrow : row ≤ p.area.bottom)
    (hcol : ∀ k < n, col + k ≤ p.area.right) :
    p.Sought ⟨row, col⟩ ⟨row, col + n⟩ (p.findInRow row n col).1 (p.findInRow row n col).2 := by
  induction n generalizing p col with
  | zero => exact .missed .start rfl
  | succ n ih =>
    have hhere : col ≤ p.area.right := hcol 0 (Nat.succ_pos n)
    obtain ⟨p', hidle, hvisit⟩ := visit_spec h ⟨row, col⟩
    rw [findInRow]
    cases hslot : (p.slotAt ⟨row, col⟩).map Slot.found with
    | some f =>
      rw [hslot] at hvisit
      rw [hvisit]
      exact .met .start rfl hrow hhere hvisit
    | none =>
      rw [hslot] at hvisit
      rw [hvisit]
      have hturn : p.Turn ⟨row, col⟩ (some ⟨⟨row, col⟩, none⟩) p' ⟨row, col + 1⟩ :=
        .passOver hrow hhere hvisit
      have hrest := ih hidle.1 (col + 1) (by rwa [hidle.area_eq]) (by
        intro k hk
        have := hcol (k + 1) (by omega)
        rw [hidle.area_eq]
        omega)
      rw [Nat.add_right_comm] at hrest
      exact .after hturn.tour hidle.area_eq hrest

theorem sought_findInRows (h : p.Coherent) (n row : Nat)
    (hwide : p.area.left ≤ p.area.right) (hrow : ∀ k < n, row + k ≤ p.area.bottom) :
    p.Sought ⟨row, p.area.left⟩ ⟨row + n, p.area.left⟩ (p.findInRows n row).1
      (p.findInRows n row).2 := by
  induction n generalizing p row with
  | zero => exact .missed .start rfl
  | succ n ih =>
    have hhere : row ≤ p.area.bottom := hrow 0 (Nat.succ_pos n)
    have hseek := sought_findInRow h row p.area.width p.area.left hhere (by
      intro k hk
      unfold Area.width at hk
      omega)
    obtain ⟨p', hidle, hspec⟩ := findInRow_spec h row p.area.width p.area.left
    rw [findInRows]
    rcases hfind : p.findInRow row p.area.width p.area.left with ⟨found, q⟩
    rw [hfind] at hseek hspec
    obtain rfl : q = p' := congrArg Prod.snd hspec
    cases hseek with
    | met tour area row col visit => exact .met tour area row col visit
    | missed tour area =>
      -- Nothing was found in the row, and a turn leads to the next one.
      have hturn : q.Turn ⟨row, p.area.left + p.area.width⟩ none q ⟨row + 1, q.area.left⟩ := by
        refine .nextRow ?_ ?_ <;> rw [hidle.area_eq]
        · exact hhere
        · unfold Area.width
          dsimp only
          omega
      have hrest := ih hidle.1 (row + 1) (by rwa [hidle.area_eq]) (by
        intro k hk
        have := hrow (k + 1) (by omega)
        rw [hidle.area_eq]
        omega)
      rw [Nat.add_right_comm, hidle.area_eq] at hrest
      rw [hidle.area_eq] at hturn
      exact .after (tour.trans hturn.tour) hidle.area_eq hrest

/-- A search looks at the cells that the loops come to, up to the first formula or the end. -/
theorem sought_find (h : p.Coherent) (hwide : p.area.left ≤ p.area.right)
    (hrow : c.row ≤ p.area.bottom) :
    p.Sought c ⟨p.area.bottom + 1, p.area.left⟩ (p.find c).1 (p.find c).2 := by
  have hseek := sought_findInRow h c.row (p.area.right + 1 - c.col) c.col hrow (by
    intro k hk
    omega)
  obtain ⟨p', hidle, hspec⟩ := findInRow_spec h c.row (p.area.right + 1 - c.col) c.col
  rw [find]
  rcases hfind : p.findInRow c.row (p.area.right + 1 - c.col) c.col with ⟨found, q⟩
  rw [hfind] at hseek hspec
  obtain rfl : q = p' := congrArg Prod.snd hspec
  cases hseek with
  | met tour area row col visit => exact .met tour area row col visit
  | missed tour area =>
    have hturn : q.Turn ⟨c.row, c.col + (p.area.right + 1 - c.col)⟩ none q
        ⟨c.row + 1, q.area.left⟩ := by
      refine .nextRow ?_ ?_ <;> rw [hidle.area_eq]
      · exact hrow
      · dsimp only
        omega
    have hrest := sought_findInRows hidle.1 (q.area.bottom - c.row) (c.row + 1)
      (by rwa [hidle.area_eq]) (by omega)
    have hgoal : c.row + 1 + (q.area.bottom - c.row) = p.area.bottom + 1 := by
      rw [hidle.area_eq]
      omega
    rw [hgoal, ← hidle.area_eq] at hrest
    rw [← hidle.area_eq]
    exact .after (tour.trans hturn.tour) hidle.area_eq hrest

end Pass

end SheetTemplate
