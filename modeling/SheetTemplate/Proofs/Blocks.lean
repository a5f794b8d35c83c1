import SheetTemplate.Proofs.Layout
import SheetTemplate.Proofs.Writing

namespace SheetTemplate

namespace Layout

def block (done : List Answer) (a : Answer) : Area :=
  ⟨itemLine .column done a 0, itemLine .row done a 0, itemLine .column done a (a.extra .column),
    itemLine .row done a (a.extra .row)⟩

variable {done : List Answer} {a b : Answer} {c : CellRef} {i j : Nat}

theorem itemLine_le_itemLine {axis : Axis} {k l : Nat} (h : k ≤ l) :
    itemLine axis done a k ≤ itemLine axis done a l := by
  rcases Nat.lt_or_eq_of_le h with hlt | rfl
  · exact Nat.le_of_lt (itemLine_lt_itemLine axis done a hlt)
  · exact Nat.le_refl _

theorem item_mem_block (hi : i < a.grid.height) (hj : j < a.grid.width) :
    item done a i j ∈ block done a :=
  Area.mem_def.2 ⟨itemLine_le_itemLine (Nat.zero_le _), itemLine_le_itemLine (le_extra_column hj),
    itemLine_le_itemLine (Nat.zero_le _), itemLine_le_itemLine (le_extra_row hi)⟩

theorem coordinate_eq_of_between {axis : Axis} (ha : a ∈ done)
    (hlow : itemLine axis done a 0 ≤ line axis done i)
    (hhigh : line axis done i ≤ itemLine axis done a (a.extra axis)) :
    axis.coordinate a.pos = i := by
  rcases Nat.lt_trichotomy (axis.coordinate a.pos) i with h | h | h
  · have := itemLine_lt ha (Nat.le_refl _) h
    omega
  · exact h
  · have := line_lt axis done h
    rw [itemLine_zero] at hlow
    omega

/-- Of the template only the formula itself lies in its block. -/
theorem pos_eq_of_move_mem_block (ha : a ∈ done) (h : move done c ∈ block done a) : a.pos = c := by
  obtain ⟨hleft, hright, htop, hbottom⟩ := Area.mem_def.1 h
  apply Axis.ext_coordinate .row
  · exact coordinate_eq_of_between ha htop hbottom
  · exact coordinate_eq_of_between ha hleft hright

theorem block_concat (hb : b ∈ done) (hba : b.pos.Before a.pos) :
    block (done ++ [a]) b = (block done b).giveWay (move done a.pos) a.grid := by
  have hfirst := item_concat hb b.grid.height_pos b.grid.width_pos hba
  have hlast := item_concat hb (Nat.sub_one_lt_of_lt b.grid.height_pos)
    (Nat.sub_one_lt_of_lt b.grid.width_pos) hba
  have hcorners := Area.giveWay_corners (move done a.pos) a.grid (c := item done b 0 0)
    (d := item done b (b.extra .row) (b.extra .column)) (itemLine_le_itemLine (Nat.zero_le _))
    (itemLine_le_itemLine (Nat.zero_le _))
  refine Eq.trans ?_ hcorners.symm
  rw [← hfirst]
  exact congrArg (fun d : CellRef => Area.mk _ _ d.col d.row) hlast

theorem block_last (h : ∀ b ∈ done, b.pos.Before a.pos) :
    block (done ++ [a]) a = Area.sized (move done a.pos) a.grid.width a.grid.height := by
  have hfirst := item_last (i := 0) (j := 0) h
  have hlast := item_last (i := a.extra .row) (j := a.extra .column) h
  rw [Area.sized_grid]
  exact congrArg₂ (fun c d : CellRef => Area.mk c.col c.row d.col d.row) hfirst hlast

end Layout

end SheetTemplate
