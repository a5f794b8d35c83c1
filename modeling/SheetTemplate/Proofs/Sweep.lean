import Mathlib.Data.List.Perm.Subperm
import SheetTemplate.Proofs.CellByCell

namespace SheetTemplate

namespace Area

theorem length_cells (a : Area) :
    a.cells.length = (a.bottom + 1 - a.top) * (a.right + 1 - a.left) := by
  simp [cells, List.length_flatMap]

/-- Cells of an area that come one behind the other are no more than the area has. -/
theorem length_le_of_pairwise {a : Area} {l : List CellRef} (hsorted : l.Pairwise CellRef.Before)
    (hin : ∀ x ∈ l, x ∈ a) : l.length ≤ a.width * a.height := by
  cases l with
  | nil => exact Nat.zero_le _
  | cons x rest =>
    obtain ⟨hleft, hright, htop, hbottom⟩ := mem_def.1 (hin x List.mem_cons_self)
    have hnodup : (x :: rest).Nodup := hsorted.imp CellRef.Before.ne
    have hsubset : (x :: rest) ⊆ a.cells := by
      intro y hy
      exact mem_cells.2 (hin y hy)
    have hlength := (List.subperm_of_subset hnodup hsubset).length_le
    have hheight : a.bottom + 1 - a.top = a.height := by
      unfold height
      omega
    have hwidth : a.right + 1 - a.left = a.width := by
      unfold width
      omega
    rwa [length_cells, hheight, hwidth, Nat.mul_comm] at hlength

def Within (a b : Area) : Prop := ∀ axis, b.low axis ≤ a.low axis ∧ a.high axis ≤ b.high axis

theorem Within.refl (a : Area) : a.Within a := fun _ => ⟨Nat.le_refl _, Nat.le_refl _⟩

theorem Within.mem {a b : Area} (h : a.Within b) {c : CellRef} (hc : c ∈ a) : c ∈ b := by
  obtain ⟨hleft, hright, htop, hbottom⟩ := mem_def.1 hc
  exact mem_def.2 ⟨Nat.le_trans (h .column).1 hleft, Nat.le_trans hright (h .column).2,
    Nat.le_trans (h .row).1 htop, Nat.le_trans hbottom (h .row).2⟩

theorem within_grow_concat (a : Area) (done : List Answer) (b : Answer) :
    (a.grow done).Within (a.grow (done ++ [b])) := by
  rw [grow_concat]
  intro axis
  cases axis
  · exact ⟨Nat.le_refl _, Nat.le_add_right _ _⟩
  · exact ⟨Nat.le_refl _, Nat.le_add_right _ _⟩

end Area

namespace Pass

variable {κ σ : Type} [MergeLookup κ] [LawfulMergeLookup κ] [Evaluator σ] {p₀ p p' q : Pass κ σ}
  {done : List Answer} {c c' : CellRef} {looks : List Look} {look : Option Look}
  {result : Except SheetError Unit}

structure Swept (p₀ : Pass κ σ) (done : List Answer) (looks : List Look) (p : Pass κ σ)
    (c : CellRef) : Prop where
  progress : Progress p₀ done p
  clear : Clear p₀.sheet done c
  evaluated : (looks.filterMap (·.evaluated)).length = done.length
  sorted : (looks.map (·.cell)).Pairwise CellRef.Before
  behind : ∀ l ∈ looks, l.cell.Before c
  inside : ∀ l ∈ looks, l.cell ∈ p.area
  top : p.area.top ≤ c.row
  left : p.area.left ≤ c.col

theorem Swept.start (harea : p₀.sheet.extent? = some p₀.area) (h : Progress p₀ [] p₀) :
    Swept p₀ [] [] p₀ p₀.area.topLeft where
  progress := h
  clear := clear_start harea
  evaluated := rfl
  sorted := .nil
  behind _ hl := absurd hl List.not_mem_nil
  inside _ hl := absurd hl List.not_mem_nil
  top := Nat.le_refl _
  left := Nat.le_refl _

theorem Swept.sorted_concat (h : Swept p₀ done looks p c) {l : Look} (hcell : l.cell = c) :
    ((looks ++ [l]).map (·.cell)).Pairwise CellRef.Before := by
  rw [List.map_append, List.pairwise_append]
  refine ⟨h.sorted, List.pairwise_singleton _ _, ?_⟩
  intro x hx y hy
  obtain ⟨k, hk, rfl⟩ := List.mem_map.1 hx
  obtain rfl : y = c := by simpa [hcell] using hy
  exact h.behind k hk

theorem Swept.inside_concat (h : Swept p₀ done looks p c) {l : Look} (hcell : l.cell = c)
    (hrow : c.row ≤ p.area.bottom) (hcol : c.col ≤ p.area.right) :
    ∀ k ∈ looks ++ [l], k.cell ∈ p.area := by
  intro k hk
  rcases List.mem_append.1 hk with hk | hk
  · exact h.inside k hk
  · obtain rfl := List.mem_singleton.1 hk
    rw [hcell]
    exact Area.mem_def.2 ⟨h.left, hcol, h.top, hrow⟩

theorem Swept.advance {done' : List Answer} (h : Swept p₀ done looks p c) (l : Look)
    (hcell : l.cell = c) (hrow : c.row ≤ p.area.bottom) (hcol : c.col ≤ p.area.right)
    (hprogress : Progress p₀ done' p') (hclear : Clear p₀.sheet done' ⟨c.row, c.col + 1⟩)
    (hevaluated : done.length + l.evaluated.toList.length = done'.length)
    (hwithin : p.area.Within p'.area) :
    Swept p₀ done' (looks ++ [l]) p' ⟨c.row, c.col + 1⟩ := by
  have hnext : c.Before ⟨c.row, c.col + 1⟩ := .inr ⟨rfl, Nat.lt_succ_self _⟩
  constructor
  case progress => exact hprogress
  case clear => exact hclear
  case evaluated =>
    have hlook : [l].filterMap (·.evaluated) = l.evaluated.toList := by
      cases hl : l.evaluated <;> simp [hl]
    rw [List.filterMap_append, List.length_append, h.evaluated, hlook, hevaluated]
  case sorted => exact h.sorted_concat hcell
  case behind =>
    intro k hk
    rcases List.mem_append.1 hk with hk | hk
    · exact (h.behind k hk).trans hnext
    · obtain rfl := List.mem_singleton.1 hk
      rwa [hcell]
  case inside =>
    intro k hk
    exact hwithin.mem (h.inside_concat hcell hrow hcol k hk)
  case top => exact Nat.le_trans (hwithin .row).1 h.top
  case left => exact Nat.le_succ_of_le (Nat.le_trans (hwithin .column).1 h.left)

/-- A cell without a formula is no place of a formula that is left. -/
theorem clear_passOver (h : Progress p₀ done p) (hclear : Clear p₀.sheet done c)
    (hnone : p.slotAt c = none) : Clear p₀.sheet done ⟨c.row, c.col + 1⟩ := by
  intro s hs hnew hbefore
  have hnot := hclear s hs hnew
  have hne : Layout.move done s.pos ≠ c := by
    rintro rfl
    rw [h.slotAt_pending hs hnew] at hnone
    cases hnone
  apply hne
  apply Axis.ext_coordinate .row <;> simp only [CellRef.Before, Axis.coordinate,
    Axis.other_row] at * <;> omega

theorem clear_nextRow (h : Progress p₀ done p) (harea : p₀.sheet.extent? = some p₀.area)
    (hclear : Clear p₀.sheet done c) (hcol : p.area.right < c.col) :
    Clear p₀.sheet done ⟨c.row + 1, p.area.left⟩ := by
  intro s hs hnew hbefore
  have hnot := hclear s hs hnew
  obtain ⟨cell, -, -, hcell⟩ := h.cell_pending hs hnew
  have hmem := Sheet.mem_of_extent? (h.extent harea) (Sheet.mem_cells_iff.2 ⟨cell, hcell⟩)
  obtain ⟨hleft, hright, -, -⟩ := Area.mem_def.1 hmem
  unfold CellRef.Before at hbefore hnot
  dsimp only at hbefore
  omega

/-- A turn keeps what is known of the loops. -/
theorem Swept.turn (harea : p₀.sheet.extent? = some p₀.area) (h : Swept p₀ done looks p c)
    (hturn : p.Turn c look p' c') : ∃ done', Swept p₀ done' (looks ++ look.toList) p' c' := by
  cases hturn with
  | nextRow row col =>
    refine ⟨done, ?_⟩
    rw [Option.toList_none, List.append_nil]
    constructor
    case progress => exact h.progress
    case clear => exact clear_nextRow h.progress harea h.clear col
    case evaluated => exact h.evaluated
    case sorted => exact h.sorted
    case behind =>
      intro l hl
      have hbehind := h.behind l hl
      unfold CellRef.Before at *
      dsimp only
      omega
    case inside => exact h.inside
    case top => exact Nat.le_succ_of_le h.top
    case left => exact Nat.le_refl _
  | passOver row col visit =>
    obtain ⟨q, hidle, hvisit⟩ := visit_spec h.progress.coherent c
    rw [visit] at hvisit
    obtain ⟨hslot, rfl⟩ := Prod.mk.inj hvisit
    have hnone : p.slotAt c = none := Option.map_eq_none_iff.1 hslot.symm
    refine ⟨done, h.advance _ rfl row col (h.progress.idle hidle)
      (clear_passOver h.progress h.clear hnone) (by simp) ?_⟩
    rw [hidle.area_eq]
    exact .refl _
  | answer row col visit answered =>
    obtain ⟨a, hprogress, hclear⟩ :=
      (Step.answer (find_of_visit col visit) answered).progress harea h.progress h.clear
    refine ⟨done ++ [a], h.advance _ rfl row col hprogress hclear (by simp) ?_⟩
    rw [hprogress.area, h.progress.area]
    exact Area.within_grow_concat _ _ _

/-- All the way from their start the loops keep it. -/
theorem Tour.swept (harea : p₀.sheet.extent? = some p₀.area) (h : Progress p₀ [] p₀)
    (htour : p₀.Tour p₀.area.topLeft looks p c) : ∃ done, Swept p₀ done looks p c := by
  induction htour with
  | start => exact ⟨[], .start harea h⟩
  | turn _ turn ih =>
    obtain ⟨done, hswept⟩ := ih
    exact hswept.turn harea turn

theorem length_looks_le {a : Area} (hsorted : (looks.map (·.cell)).Pairwise CellRef.Before)
    (hin : ∀ l ∈ looks, l.cell ∈ a) : looks.length ≤ a.width * a.height := by
  rw [← List.length_map (·.cell)]
  apply Area.length_le_of_pairwise hsorted
  intro x hx
  obtain ⟨l, hl, rfl⟩ := List.mem_map.1 hx
  exact hin l hl

theorem Progress.length_le (h : Progress p₀ done p) : done.length ≤ p₀.sheet.textCount := by
  have hle := h.opened.length_le
  rw [List.length_map] at hle
  exact Nat.le_trans hle p₀.sheet.length_slots_le

/-- A formula in sight is one more than those answered. -/
theorem Progress.length_lt {s : Slot} (h : Progress p₀ done p) (hs : p.slotAt c = some s) :
    done.length < p₀.sheet.textCount := by
  obtain ⟨t, ht, hnew, -⟩ := h.pending_of_slotAt hs
  refine Nat.lt_of_lt_of_le ?_ p₀.sheet.length_slots_le
  have hle := h.opened.length_le
  rw [List.length_map] at hle
  refine Nat.lt_of_le_of_ne hle fun heq => ?_
  have hall : done.map Answer.toSlot = p₀.sheet.slots :=
    h.opened.eq_of_length (by rw [List.length_map, heq])
  rw [← hall] at ht
  obtain ⟨a, ha, rfl⟩ := List.mem_map.1 ht
  exact hnew a ha rfl

end Pass

end SheetTemplate
