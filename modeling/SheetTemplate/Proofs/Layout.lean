import Mathlib.Algebra.GroupWithZero.Nat
import Mathlib.Data.List.Basic
import SheetTemplate.Proofs.Insertion
import SheetTemplate.Proofs.Slots

namespace SheetTemplate

def Answer.extra (axis : Axis) (a : Answer) : Nat := a.grid.size axis - 1

namespace Layout

def total (axis : Axis) (done : List Answer) : Nat := (done.map (·.extra axis)).sum

def gain (axis : Axis) (p : Answer → Prop) [DecidablePred p] (done : List Answer) : Nat :=
  total axis (done.filter p)

/-- Where line `i` of the template lies after the answers. -/
def line (axis : Axis) (done : List Answer) (i : Nat) : Nat :=
  i + gain axis (fun q => axis.coordinate q.pos < i) done

def later (axis : Axis) (done : List Answer) (p : Answer) : Nat :=
  gain axis (fun q => axis.coordinate q.pos = axis.coordinate p.pos ∧
    axis.other.coordinate p.pos < axis.other.coordinate q.pos) done

/-- Where line `k` of an answer lies. All but its first are pushed away by the later answers in
the same line of the template. -/
def itemLine (axis : Axis) (done : List Answer) (p : Answer) (k : Nat) : Nat :=
  line axis done (axis.coordinate p.pos) + k + if 1 ≤ k then later axis done p else 0

/-- Where a cell of the template lies after the answers. -/
def move (done : List Answer) (c : CellRef) : CellRef :=
  ⟨line .row done c.row, line .column done c.col⟩

def item (done : List Answer) (p : Answer) (r c : Nat) : CellRef :=
  ⟨itemLine .row done p r, itemLine .column done p c⟩

section Sums

variable {axis : Axis} {p q r : Answer → Prop} [DecidablePred p] [DecidablePred q]
  [DecidablePred r] {done : List Answer}

theorem total_concat (axis : Axis) (done : List Answer) (a : Answer) :
    total axis (done ++ [a]) = total axis done + a.extra axis := by
  rw [total, List.map_append, List.sum_append, List.map_singleton, List.sum_singleton]
  rfl

theorem gain_nil : gain axis p [] = 0 := rfl

theorem gain_cons (a : Answer) :
    gain axis p (a :: done) = (if p a then a.extra axis else 0) + gain axis p done := by
  unfold gain total
  by_cases h : p a <;> simp [h]

theorem gain_concat (a : Answer) :
    gain axis p (done ++ [a]) = gain axis p done + if p a then a.extra axis else 0 := by
  induction done with
  | nil => rw [List.nil_append, gain_cons, gain_nil, Nat.zero_add, Nat.add_zero]
  | cons b done ih => rw [List.cons_append, gain_cons, gain_cons, ih, Nat.add_assoc]

theorem gain_eq_zero (h : ∀ a ∈ done, ¬ p a) : gain axis p done = 0 := by
  induction done with
  | nil => rfl
  | cons a done ih =>
    rw [gain_cons, if_neg (h a List.mem_cons_self),
      ih fun b hb => h b (List.mem_cons_of_mem _ hb)]

theorem gain_add_gain_le (axis : Axis) (done : List Answer) (hq : ∀ a, q a → p a)
    (hr : ∀ a, r a → p a) (hqr : ∀ a, q a → ¬ r a) :
    gain axis q done + gain axis r done ≤ gain axis p done := by
  induction done with
  | nil => exact Nat.le_refl 0
  | cons a done ih =>
    have h : (if q a then a.extra axis else 0) + (if r a then a.extra axis else 0) ≤
        if p a then a.extra axis else 0 := by
      by_cases hqa : q a
      · exact Nat.le_of_eq (by rw [if_pos hqa, if_neg (hqr a hqa), if_pos (hq a hqa), Nat.add_zero])
      · by_cases hra : r a
        · exact Nat.le_of_eq (by rw [if_neg hqa, if_pos hra, if_pos (hr a hra), Nat.zero_add])
        · rw [if_neg hqa, if_neg hra]
          exact Nat.zero_le _
    rw [gain_cons, gain_cons, gain_cons]
    omega

theorem gain_mono (axis : Axis) (done : List Answer) (h : ∀ a, q a → p a) :
    gain axis q done ≤ gain axis p done := by
  have := gain_add_gain_le axis done (r := fun _ => False) h (fun _ => False.elim) fun _ _ => id
  omega

theorem extra_add_gain_le {a : Answer} (ha : a ∈ done) (hp : p a) (hq : ∀ b, q b → p b)
    (hqa : ¬ q a) : a.extra axis + gain axis q done ≤ gain axis p done := by
  induction done with
  | nil => cases ha
  | cons b done ih =>
    rw [gain_cons, gain_cons]
    rcases List.mem_cons.1 ha with rfl | ha
    · have := gain_mono axis done hq
      rw [if_neg hqa, if_pos hp]
      omega
    · have hb : (if q b then b.extra axis else 0) ≤ if p b then b.extra axis else 0 := by
        by_cases hqb : q b
        · exact Nat.le_of_eq (by rw [if_pos hqb, if_pos (hq b hqb)])
        · rw [if_neg hqb]
          exact Nat.zero_le _
      have := ih ha
      omega

end Sums

section Lines

variable {axis : Axis} {done : List Answer} {a b : Answer} {i j k l : Nat}

/-- What comes of a line of the template stays before the next one. -/
theorem line_add_gain_lt (axis : Axis) (done : List Answer) (h : i < j) :
    line axis done i + gain axis (fun q => axis.coordinate q.pos = i) done < line axis done j := by
  have := gain_add_gain_le axis done (p := fun q => axis.coordinate q.pos < j)
    (q := fun q => axis.coordinate q.pos < i) (r := fun q => axis.coordinate q.pos = i)
    (fun _ h' => by omega) (fun _ h' => by omega) fun _ h' => by omega
  unfold line
  omega

theorem line_lt (axis : Axis) (done : List Answer) (h : i < j) :
    line axis done i < line axis done j := by
  have := line_add_gain_lt axis done h
  omega

theorem line_lt_iff (axis : Axis) (done : List Answer) {i j : Nat} :
    line axis done i < line axis done j ↔ i < j := by
  constructor
  · intro h
    rcases Nat.lt_trichotomy i j with hij | rfl | hij
    · exact hij
    · omega
    · have := line_lt axis done hij
      omega
  · exact line_lt axis done

theorem line_inj : line axis done i = line axis done j ↔ i = j := by
  have := line_lt_iff axis done (i := i) (j := j)
  have := line_lt_iff axis done (i := j) (j := i)
  omega

theorem itemLine_zero : itemLine axis done a 0 = line axis done (axis.coordinate a.pos) := rfl

theorem line_le_itemLine (axis : Axis) (done : List Answer) (a : Answer) (k : Nat) :
    line axis done (axis.coordinate a.pos) ≤ itemLine axis done a k := by
  rw [itemLine, Nat.add_assoc]
  exact Nat.le_add_right _ _

theorem itemLine_lt_itemLine (axis : Axis) (done : List Answer) (a : Answer) (h : k < l) :
    itemLine axis done a k < itemLine axis done a l := by
  unfold itemLine
  split <;> split <;> omega

theorem itemLine_inj : itemLine axis done a k = itemLine axis done a l ↔ k = l := by
  constructor
  · intro h
    rcases Nat.lt_trichotomy k l with hkl | rfl | hkl
    · have := itemLine_lt_itemLine axis done a hkl
      omega
    · rfl
    · have := itemLine_lt_itemLine axis done a hkl
      omega
  · rintro rfl
    rfl

theorem extra_add_later_le (axis : Axis) (ha : a ∈ done) :
    a.extra axis + later axis done a ≤
      gain axis (fun q => axis.coordinate q.pos = axis.coordinate a.pos) done := by
  refine extra_add_gain_le (p := fun q => axis.coordinate q.pos = axis.coordinate a.pos)
    ha rfl ?_ ?_
  · intro b h
    exact h.1
  · intro h
    exact Nat.lt_irrefl _ h.2

theorem itemLine_lt (ha : a ∈ done) (hk : k ≤ a.extra axis) (h : axis.coordinate a.pos < j) :
    itemLine axis done a k < line axis done j := by
  have hblock := line_add_gain_lt axis done h
  have hlater := extra_add_later_le axis ha
  unfold itemLine
  split <;> omega

theorem eq_of_itemLine_eq_line (ha : a ∈ done) (hk : k ≤ a.extra axis)
    (h : itemLine axis done a k = line axis done j) : axis.coordinate a.pos = j := by
  rcases Nat.lt_trichotomy (axis.coordinate a.pos) j with hj | hj | hj
  · have := itemLine_lt ha hk hj
    omega
  · exact hj
  · have := line_lt axis done hj
    have := line_le_itemLine axis done a k
    omega

theorem coordinate_eq_of_itemLine_eq (ha : a ∈ done) (hb : b ∈ done) (hk : k ≤ a.extra axis)
    (hl : l ≤ b.extra axis) (h : itemLine axis done a k = itemLine axis done b l) :
    axis.coordinate a.pos = axis.coordinate b.pos := by
  rcases Nat.lt_trichotomy (axis.coordinate a.pos) (axis.coordinate b.pos) with hab | hab | hab
  · have := itemLine_lt ha hk hab
    have := line_le_itemLine axis done b l
    omega
  · exact hab
  · have := itemLine_lt hb hl hab
    have := line_le_itemLine axis done a k
    omega

theorem line_concat :
    line axis (done ++ [a]) i =
      shiftIndex (line axis done (axis.coordinate a.pos) + 1) (a.extra axis)
        (line axis done i) := by
  have hline : line axis (done ++ [a]) i =
      line axis done i + if axis.coordinate a.pos < i then a.extra axis else 0 := by
    rw [line, gain_concat, ← Nat.add_assoc]
    rfl
  rw [hline]
  by_cases h : axis.coordinate a.pos < i
  · have := line_lt axis done h
    rw [if_pos h, shiftIndex_of_le (by omega)]
  · have := line_lt_iff axis done (i := axis.coordinate a.pos) (j := i)
    rw [if_neg h, Nat.add_zero, shiftIndex_of_lt (by omega)]

theorem later_concat :
    later axis (done ++ [a]) b =
      later axis done b +
        if axis.coordinate a.pos = axis.coordinate b.pos ∧
          axis.other.coordinate b.pos < axis.other.coordinate a.pos then a.extra axis else 0 :=
  gain_concat a

theorem later_concat_of_ne (h : axis.coordinate a.pos ≠ axis.coordinate b.pos) :
    later axis (done ++ [a]) b = later axis done b := by
  rw [later_concat, if_neg fun h' => h h'.1, Nat.add_zero]

/-- One more answer moves the lines of the others as its insertion does, if it stands after all
those of its own line. -/
theorem itemLine_concat (hb : b ∈ done) (hk : k ≤ b.extra axis)
    (hafter : axis.coordinate b.pos = axis.coordinate a.pos →
      axis.other.coordinate b.pos < axis.other.coordinate a.pos) :
    itemLine axis (done ++ [a]) b k =
      shiftIndex (line axis done (axis.coordinate a.pos) + 1) (a.extra axis)
        (itemLine axis done b k) := by
  rcases Nat.lt_trichotomy (axis.coordinate b.pos) (axis.coordinate a.pos) with hba | hba | hba
  · -- The whole block of `b` lies before the insertion.
    have hline := line_lt axis done hba
    have hlt := itemLine_lt hb hk hba
    rw [shiftIndex_of_lt (by omega), itemLine, later_concat_of_ne (by omega), line_concat,
      shiftIndex_of_lt (by omega), itemLine]
  · -- The insertion is made right after the first line of the block.
    have hlater : later axis (done ++ [a]) b = later axis done b + a.extra axis := by
      rw [later_concat, if_pos ⟨hba.symm, hafter hba⟩]
    rw [itemLine, hlater, line_concat, hba, shiftIndex_of_lt (Nat.lt_succ_self _)]
    by_cases h : 1 ≤ k
    · have hrest := itemLine_lt_itemLine axis done b h
      rw [itemLine_zero, hba] at hrest
      rw [shiftIndex_of_le hrest, itemLine, if_pos h, if_pos h, hba]
      omega
    · rw [itemLine, if_neg h, if_neg h, hba, shiftIndex_of_lt (by omega)]
  · -- The whole block of `b` lies behind the insertion.
    have hline := line_lt axis done hba
    have hlow := line_le_itemLine axis done b k
    rw [shiftIndex_of_le (by omega), itemLine, later_concat_of_ne (by omega), line_concat,
      shiftIndex_of_le (by omega), itemLine]
    omega

theorem itemLine_last
    (hafter : ∀ b ∈ done, axis.coordinate b.pos = axis.coordinate a.pos →
      axis.other.coordinate b.pos < axis.other.coordinate a.pos) :
    itemLine axis (done ++ [a]) a k = line axis done (axis.coordinate a.pos) + k := by
  have hlater : later axis (done ++ [a]) a = 0 := by
    apply gain_eq_zero
    rintro b hb ⟨hline, hother⟩
    rcases List.mem_append.1 hb with hb | hb
    · have := hafter b hb hline
      omega
    · obtain rfl := List.mem_singleton.1 hb
      omega
  rw [itemLine, hlater, ite_self, Nat.add_zero, line_concat,
    shiftIndex_of_lt (Nat.lt_succ_self _)]

end Lines

end Layout

theorem CellRef.Before.across {c d : CellRef} (h : c.Before d) (axis : Axis)
    (heq : axis.coordinate c = axis.coordinate d) :
    axis.other.coordinate c < axis.other.coordinate d := by
  unfold Before at h
  cases axis <;> simp only [Axis.coordinate, Axis.other_row, Axis.other_column] at * <;> omega

namespace Layout

variable {done : List Answer} {a b : Answer} {c d : CellRef} {i j k l : Nat}

theorem move_before_move_iff (done : List Answer) {c d : CellRef} :
    (move done c).Before (move done d) ↔ c.Before d := by
  simp only [CellRef.Before, move, line_lt_iff, line_inj]

theorem move_inj : move done c = move done d ↔ c = d := by
  cases c
  cases d
  simp only [move, CellRef.mk.injEq, line_inj]

theorem item_inj : item done a i j = item done a k l ↔ i = k ∧ j = l := by
  simp only [item, CellRef.mk.injEq, itemLine_inj]

theorem le_extra_row (h : i < a.grid.height) : i ≤ a.extra .row := Nat.le_sub_one_of_lt h

theorem le_extra_column (h : i < a.grid.width) : i ≤ a.extra .column := Nat.le_sub_one_of_lt h

/-- The items of an answer lie in its own block: only its first item is where a cell of the
template has gone, and that cell is the formula. -/
theorem pos_eq_of_item_eq_move (ha : a ∈ done) (hi : i < a.grid.height) (hj : j < a.grid.width)
    (h : item done a i j = move done c) : a.pos = c := by
  obtain ⟨hrow, hcol⟩ := CellRef.mk.injEq .. ▸ h
  have hrow' := eq_of_itemLine_eq_line ha (le_extra_row hi) hrow
  have hcol' := eq_of_itemLine_eq_line ha (le_extra_column hj) hcol
  exact Axis.ext_coordinate .row hrow' hcol'

theorem pos_eq_of_item_eq_item (ha : a ∈ done) (hb : b ∈ done) (hi : i < a.grid.height)
    (hj : j < a.grid.width) (hk : k < b.grid.height) (hl : l < b.grid.width)
    (h : item done a i j = item done b k l) : a.pos = b.pos := by
  obtain ⟨hrow, hcol⟩ := CellRef.mk.injEq .. ▸ h
  have hrow' := coordinate_eq_of_itemLine_eq ha hb (le_extra_row hi) (le_extra_row hk) hrow
  have hcol' := coordinate_eq_of_itemLine_eq ha hb (le_extra_column hj) (le_extra_column hl) hcol
  exact Axis.ext_coordinate .row hrow' hcol'

theorem move_concat (done : List Answer) (a : Answer) (c : CellRef) :
    move (done ++ [a]) c = (move done c).giveWay (move done a.pos) a.grid :=
  congrArg₂ CellRef.mk line_concat line_concat

theorem item_concat (hb : b ∈ done) (hi : i < b.grid.height) (hj : j < b.grid.width)
    (hba : b.pos.Before a.pos) :
    item (done ++ [a]) b i j = (item done b i j).giveWay (move done a.pos) a.grid :=
  congrArg₂ CellRef.mk (itemLine_concat hb (le_extra_row hi) (hba.across .row))
    (itemLine_concat hb (le_extra_column hj) (hba.across .column))

theorem item_last (h : ∀ b ∈ done, b.pos.Before a.pos) :
    item (done ++ [a]) a i j = (move done a.pos).offset j i :=
  congrArg₂ CellRef.mk (itemLine_last fun b hb => (h b hb).across .row)
    (itemLine_last fun b hb => (h b hb).across .column)

theorem giveWay_self (pos : CellRef) (g : Grid) : pos.giveWay pos g = pos := by
  cases pos
  rw [CellRef.mk.injEq]
  exact ⟨shiftIndex_of_lt (Nat.lt_succ_self _), shiftIndex_of_lt (Nat.lt_succ_self _)⟩

def placedFrom (before : List Answer) : List Answer → List (CellRef × Answer)
  | [] => []
  | a :: rest => (move before a.pos, a) :: placedFrom (before ++ [a]) rest

/-- The answers with the places at which they are written, each after the ones before it. -/
def placed (done : List Answer) : List (CellRef × Answer) := placedFrom [] done

theorem placedFrom_concat (before done : List Answer) (a : Answer) :
    placedFrom before (done ++ [a]) =
      placedFrom before done ++ [(move (before ++ done) a.pos, a)] := by
  induction done generalizing before with
  | nil => rw [List.append_nil]; rfl
  | cons b done ih => simp [placedFrom, ih]

theorem placed_concat (done : List Answer) (a : Answer) :
    placed (done ++ [a]) = placed done ++ [(move done a.pos, a)] :=
  placedFrom_concat [] done a

end Layout

end SheetTemplate
