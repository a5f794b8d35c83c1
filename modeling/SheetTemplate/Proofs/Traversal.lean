import SheetTemplate.Proofs.Insertion
import SheetTemplate.Proofs.MergeMemory
import SheetTemplate.Proofs.Slots

namespace SheetTemplate

def Slot.found (s : Slot) : Pass.Found := ⟨s.text, s.formula⟩

namespace Pass

variable {κ σ : Type} {p p' p'' : Pass κ σ}

def slotAt (p : Pass κ σ) (c : CellRef) : Option Slot :=
  if covered p.written c then none else Slot.ofCell? p.sheet.merges c (p.sheet.cellAt c)

theorem slotAt_eq (p : Pass κ σ) (c : CellRef) :
    p.slotAt c =
      if covered p.written c || covered p.sheet.merges c then none
      else (p.sheet.valueAt c).text?.bind fun text =>
        (Formula.ofText? text).map fun f => ⟨c, text, f⟩ := by
  unfold slotAt Slot.ofCell?
  cases covered p.written c <;> cases covered p.sheet.merges c <;> rfl

theorem pos_of_slotAt {c : CellRef} {s : Slot} (h : p.slotAt c = some s) : s.pos = c := by
  unfold slotAt at h
  split at h
  · cases h
  · exact (Slot.ofCell?_eq_some_iff.1 h).1

variable [MergeLookup κ] [LawfulMergeLookup κ]

def Coherent (p : Pass κ σ) : Prop := LawfulMergeLookup.Agrees p.sheet.merges p.merges

def Idle (p p' : Pass κ σ) : Prop :=
  p'.Coherent ∧ p' = { p with merges := p'.merges, journal := p'.journal }

namespace Idle

theorem refl (h : p.Coherent) : p.Idle p := ⟨h, rfl⟩

theorem trans (h : p.Idle p') (h' : p'.Idle p'') : p.Idle p'' := by
  refine ⟨h'.1, h'.2.trans ?_⟩
  rw [h.2]

theorem slotAt_eq (h : p.Idle p') (c : CellRef) : p'.slotAt c = p.slotAt c := by
  rw [h.2]
  rfl

theorem area_eq (h : p.Idle p') : p'.area = p.area := by
  rw [h.2]

end Idle

theorem skips_spec (h : p.Coherent) (c : CellRef) :
    ∃ p', p.Idle p' ∧ p.skips c = (covered p.written c || covered p.sheet.merges c, p') := by
  unfold skips
  by_cases hc : covered p.written c = true
  · rw [if_pos hc, hc, Bool.true_or]
    exact ⟨p, .refl h, rfl⟩
  · rw [if_neg hc, Bool.eq_false_iff.2 hc, Bool.false_or]
    have hask := LawfulMergeLookup.ask_eq h c
    refine ⟨{ p with merges := (MergeLookup.ask p.sheet.merges c p.merges).2 }, ?_, by rw [← hask]⟩
    exact ⟨LawfulMergeLookup.agrees_ask h c, rfl⟩

theorem visit_spec (h : p.Coherent) (c : CellRef) :
    ∃ p', p.Idle p' ∧ p.visit c = ((p.slotAt c).map Slot.found, p') := by
  obtain ⟨p', hidle, hskips⟩ := skips_spec h c
  have hsheet : p'.sheet = p.sheet := by rw [hidle.2]
  rw [visit, hskips, slotAt_eq]
  dsimp only
  split
  case isTrue => exact ⟨p', hidle, rfl⟩
  case isFalse =>
    rw [hsheet]
    cases (p.sheet.valueAt c).text? with
    | none => exact ⟨p', hidle, rfl⟩
    | some text =>
      rw [Option.bind_some, Formula.ofText?]
      dsimp only
      cases Formula.read text with
      | ordinary => exact ⟨p', hidle, rfl⟩
      | formula f => exact ⟨p', hidle, rfl⟩
      | invalidSpec e => exact ⟨p'.addLine _, hidle.trans ⟨hidle.1, rfl⟩, rfl⟩

def hit (s : Slot) : CellRef × Found := (s.pos, s.found)

theorem findInRow_spec (h : p.Coherent) (row n col : Nat) :
    ∃ p', p.Idle p' ∧ p.findInRow row n col =
      ((((List.range' col n).map (CellRef.mk row)).findSome? p.slotAt).map hit, p') := by
  induction n generalizing p col with
  | zero => exact ⟨p, .refl h, rfl⟩
  | succ n ih =>
    obtain ⟨p', hidle, hvisit⟩ := visit_spec h ⟨row, col⟩
    rw [List.range'_succ, List.map_cons, List.findSome?_cons, findInRow, hvisit]
    cases hslot : p.slotAt ⟨row, col⟩ with
    | some s =>
      rw [Option.map_some, Option.map_some, hit, pos_of_slotAt hslot]
      exact ⟨p', hidle, rfl⟩
    | none =>
      obtain ⟨p'', hidle', hfind⟩ := ih hidle.1 (col + 1)
      rw [funext hidle.slotAt_eq] at hfind
      exact ⟨p'', hidle.trans hidle', hfind⟩

def rowCells (area : Area) (row n : Nat) : List CellRef :=
  (List.range' row n).flatMap fun row =>
    (List.range' area.left area.width).map (CellRef.mk row)

theorem findInRows_spec (h : p.Coherent) (n row : Nat) :
    ∃ p', p.Idle p' ∧
      p.findInRows n row = (((rowCells p.area row n).findSome? p.slotAt).map hit, p') := by
  induction n generalizing p row with
  | zero => exact ⟨p, .refl h, rfl⟩
  | succ n ih =>
    obtain ⟨p', hidle, hrow⟩ := findInRow_spec h row p.area.width p.area.left
    rw [rowCells, List.range'_succ, List.flatMap_cons, List.findSome?_append, findInRows, hrow]
    cases ((List.range' p.area.left p.area.width).map (CellRef.mk row)).findSome? p.slotAt with
    | some s => exact ⟨p', hidle, rfl⟩
    | none =>
      obtain ⟨p'', hidle', hfind⟩ := ih hidle.1 (row + 1)
      rw [funext hidle.slotAt_eq, hidle.area_eq] at hfind
      exact ⟨p'', hidle.trans hidle', hfind⟩

def ahead (area : Area) (c : CellRef) : List CellRef :=
  (List.range' c.col (area.right + 1 - c.col)).map (CellRef.mk c.row) ++
    rowCells area (c.row + 1) (area.bottom - c.row)

theorem find_spec (h : p.Coherent) (c : CellRef) :
    ∃ p', p.Idle p' ∧ p.find c = (((ahead p.area c).findSome? p.slotAt).map hit, p') := by
  obtain ⟨p', hidle, hrow⟩ := findInRow_spec h c.row (p.area.right + 1 - c.col) c.col
  rw [ahead, List.findSome?_append, find, hrow]
  cases ((List.range' c.col (p.area.right + 1 - c.col)).map (CellRef.mk c.row)).findSome?
      p.slotAt with
  | some s => exact ⟨p', hidle, rfl⟩
  | none =>
    obtain ⟨p'', hidle', hfind⟩ := findInRows_spec hidle.1 (p.area.bottom - c.row) (c.row + 1)
    rw [funext hidle.slotAt_eq, hidle.area_eq] at hfind
    rw [← hidle.area_eq] at hfind ⊢
    exact ⟨p'', hidle.trans hidle', hfind⟩

theorem mem_rowCells {area : Area} {row n : Nat} {x : CellRef} :
    x ∈ rowCells area row n ↔
      (row ≤ x.row ∧ x.row < row + n) ∧ area.left ≤ x.col ∧ x.col < area.left + area.width := by
  obtain ⟨r, c⟩ := x
  simp only [rowCells, List.mem_flatMap, List.mem_map, List.mem_range'_1, CellRef.mk.injEq]
  constructor
  · rintro ⟨_, hrow, _, hcol, rfl, rfl⟩
    exact ⟨hrow, hcol⟩
  · rintro ⟨hrow, hcol⟩
    exact ⟨r, hrow, c, hcol, rfl, rfl⟩

theorem pairwise_row (row col n : Nat) :
    ((List.range' col n).map (CellRef.mk row)).Pairwise CellRef.Before := by
  rw [List.pairwise_map]
  exact (List.pairwise_lt_range' (s := col) (n := n)).imp fun h => .inr ⟨rfl, h⟩

theorem pairwise_rowCells (area : Area) (row n : Nat) :
    (rowCells area row n).Pairwise CellRef.Before := by
  rw [rowCells, List.pairwise_flatMap]
  refine ⟨fun row _ => pairwise_row row _ _, ?_⟩
  refine (List.pairwise_lt_range' (s := row) (n := n)).imp ?_
  intro r r' hr x hx y hy
  obtain ⟨_, -, rfl⟩ := List.mem_map.1 hx
  obtain ⟨_, -, rfl⟩ := List.mem_map.1 hy
  exact .inl hr

theorem pairwise_ahead (area : Area) (c : CellRef) : (ahead area c).Pairwise CellRef.Before := by
  rw [ahead, List.pairwise_append]
  refine ⟨pairwise_row c.row _ _, pairwise_rowCells .., ?_⟩
  intro x hx y hy
  obtain ⟨_, -, rfl⟩ := List.mem_map.1 hx
  obtain ⟨⟨hrow, -⟩, -⟩ := mem_rowCells.1 hy
  exact .inl hrow

theorem mem_ahead {area : Area} {c x : CellRef} (hx : x ∈ area) (hc : ¬ x.Before c) :
    x ∈ ahead area c := by
  obtain ⟨hleft, hright, htop, hbottom⟩ := Area.mem_def.1 hx
  unfold CellRef.Before at hc
  rw [ahead, List.mem_append, mem_rowCells]
  by_cases hrow : x.row = c.row
  · refine .inl (List.mem_map.2 ⟨x.col, List.mem_range'_1.2 (by omega), ?_⟩)
    rw [← hrow]
  · refine .inr ⟨by omega, hleft, ?_⟩
    unfold Area.width
    omega

/-- The search comes upon the first formula ahead. -/
theorem find_eq_some (h : p.Coherent) {c : CellRef} {s : Slot} (hs : p.slotAt s.pos = some s)
    (harea : s.pos ∈ p.area) (hc : ¬ s.pos.Before c)
    (hfirst : ∀ x, x.Before s.pos → p.slotAt x = none) :
    ∃ p', p.Idle p' ∧ p.find c = (some (hit s), p') := by
  obtain ⟨p', hidle, hfind⟩ := find_spec h c
  refine ⟨p', hidle, hfind.trans ?_⟩
  obtain ⟨before, after, hsplit⟩ := List.append_of_mem (mem_ahead harea hc)
  have hsorted := pairwise_ahead p.area c
  rw [hsplit, List.pairwise_append] at hsorted
  have hbefore : before.findSome? p.slotAt = none := by
    rw [List.findSome?_eq_none_iff]
    intro x hx
    exact hfirst x (hsorted.2.2 x hx s.pos List.mem_cons_self)
  rw [hsplit, List.findSome?_append, hbefore, Option.none_or, List.findSome?_cons, hs]
  rfl

theorem find_eq_none (h : p.Coherent) (c : CellRef) (hnone : ∀ x, p.slotAt x = none) :
    ∃ p', p.Idle p' ∧ p.find c = (none, p') := by
  obtain ⟨p', hidle, hfind⟩ := find_spec h c
  refine ⟨p', hidle, hfind.trans ?_⟩
  rw [List.findSome?_eq_none_iff.2 fun x _ => hnone x]
  rfl

end Pass

end SheetTemplate
