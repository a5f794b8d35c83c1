import Mathlib.Data.List.Induction
import SheetTemplate.Proofs.Interning
import SheetTemplate.Proofs.Layout
import SheetTemplate.Proofs.Writing

namespace SheetTemplate

structure Canvas where
  sheet : Sheet
  styles : List Style

namespace Canvas

/-- One answer, written at `pos` as a whole: room is made for its grid, the grid is written, and its
cells get the style of the formula with the number format of the spec. -/
def answer (t : Canvas) (pos : CellRef) (a : Answer) : Canvas :=
  let source := t.styles[t.sheet.styleAt pos]?.getD {}
  let (id, styles) :=
    Workbook.addToTable t.styles (source.withDisplayFormat a.formula.format.displayFormat)
  { sheet := (t.sheet.makeRoom pos a.grid).put pos a.formula.format a.grid id
    styles }

def fill (t : Canvas) (done : List Answer) : Canvas :=
  (Layout.placed done).foldl (fun t (pos, a) => t.answer pos a) t

theorem fill_nil (t : Canvas) : t.fill [] = t := rfl

theorem fill_concat (t : Canvas) (done : List Answer) (a : Answer) :
    t.fill (done ++ [a]) = (t.fill done).answer (Layout.move done a.pos) a := by
  rw [fill, Layout.placed_concat, List.foldl_append]
  rfl

theorem addToTable_eq (styles : List Style) (s : Style) :
    Workbook.addToTable styles s = intern styles s := rfl

theorem prefix_addToTable (styles : List Style) (s : Style) :
    styles <+: (Workbook.addToTable styles s).2 := by
  rw [addToTable_eq]
  exact prefix_intern styles s

theorem prefix_answer (t : Canvas) (pos : CellRef) (a : Answer) :
    t.styles <+: (t.answer pos a).styles :=
  prefix_addToTable ..

theorem prefix_fill (t : Canvas) (done : List Answer) : t.styles <+: (t.fill done).styles := by
  induction done using List.reverseRecOn with
  | nil => exact List.prefix_refl _
  | append_singleton done a ih =>
    rw [fill_concat]
    exact ih.trans (prefix_answer ..)

end Canvas

/-- The value of the cell of an item. What is not of the format's type is not written, and the first
cell then keeps the text of the formula. -/
def Answer.valueAt (a : Answer) (r c : Nat) : CellValue :=
  a.grid.written a.formula.format (if r = 0 ∧ c = 0 then .text a.text else .empty) r c

def CellValue.Alike : CellValue → CellValue → Prop
  | formula _, formula _ => True
  | v, w => v = w

theorem CellValue.Alike.refl (v : CellValue) : v.Alike v := by
  cases v <;> first | exact True.intro | rfl

theorem CellValue.Alike.trans {u v w : CellValue} (h : u.Alike v) (h' : v.Alike w) : u.Alike w := by
  cases u <;> cases v <;> cases w <;> simp_all [Alike]

theorem CellValue.Alike.eq {v w : CellValue} (h : v.Alike w) (hv : ∀ t, v ≠ formula t) : w = v := by
  cases v <;> cases w <;> simp_all [Alike]

namespace Cell

theorem alike_carry (axis : Axis) (start count : Nat) (c : Cell) :
    c.value.Alike (c.carry axis start count).value := by
  unfold carry
  split
  case isTrue => exact .refl _
  case isFalse =>
    obtain ⟨v, -⟩ := c
    cases v <;> first | exact True.intro | rfl

theorem alike_giveWay (pos : CellRef) (g : Grid) (c : Cell) :
    c.value.Alike (c.giveWay pos g).value :=
  (alike_carry ..).trans (alike_carry ..)

theorem giveWay_eq {c : Cell} (h : ∀ t, c.value ≠ .formula t) (pos : CellRef) (g : Grid) :
    c.giveWay pos g = c :=
  congrArg₂ mk ((alike_giveWay pos g c).eq h) (style_giveWay pos g c)

def follow (done : List Answer) (c : Cell) : Cell :=
  (Layout.placed done).foldl (fun c (pos, a) => c.giveWay pos a.grid) c

theorem follow_concat (done : List Answer) (a : Answer) (c : Cell) :
    c.follow (done ++ [a]) = (c.follow done).giveWay (Layout.move done a.pos) a.grid := by
  rw [follow, Layout.placed_concat, List.foldl_append]
  rfl

@[simp] theorem style_follow (done : List Answer) (c : Cell) :
    (c.follow done).style = c.style := by
  induction done using List.reverseRecOn with
  | nil => rfl
  | append_singleton done a ih => rw [follow_concat, style_giveWay, ih]

theorem alike_follow (done : List Answer) (c : Cell) : c.value.Alike (c.follow done).value := by
  induction done using List.reverseRecOn with
  | nil => exact .refl _
  | append_singleton done a ih =>
    rw [follow_concat]
    exact ih.trans (alike_giveWay ..)

theorem follow_eq {c : Cell} (h : ∀ t, c.value ≠ .formula t) (done : List Answer) :
    c.follow done = c :=
  congrArg₂ mk ((alike_follow done c).eq h) (style_follow done c)

end Cell

theorem Answer.valueAt_ne_formula (a : Answer) (r c : Nat) (t : String) :
    a.valueAt r c ≠ .formula t := by
  unfold valueAt Grid.written
  cases h : (a.grid.get? r c).bind (CellValue.ofScalar? a.formula.format) with
  | none => rw [Option.getD_none]; split <;> simp
  | some v =>
    obtain ⟨x, -, hx⟩ := Option.bind_eq_some_iff.1 h
    unfold CellValue.ofScalar? at hx
    rw [Option.getD_some]
    split at hx
    · cases x <;> simp_all <;> subst hx <;> simp
    · cases hx

namespace Layout

/-- What stands on a sheet after some formulas of a template are answered. -/
structure Laid (template : Sheet) (done : List Answer) (s : Sheet) : Prop where
  name : s.name = template.name
  moved : ∀ c cell, template.cells[c]? = some cell → (∀ a ∈ done, a.pos ≠ c) →
    s.cells[move done c]? = some (cell.follow done)
  items : ∀ a ∈ done, ∀ r < a.grid.height, ∀ c < a.grid.width,
    ∃ id, s.cells[item done a r c]? = some ⟨a.valueAt r c, id⟩
  stored : ∀ x ∈ s.cells,
    (∃ c ∈ template.cells, (∀ a ∈ done, a.pos ≠ c) ∧ move done c = x) ∨
      ∃ a ∈ done, ∃ r < a.grid.height, ∃ c < a.grid.width, item done a r c = x
  covering : ∀ c, covered s.merges (move done c) = covered template.merges c

/-- One more answer does not touch the items of those before it. -/
theorem getElem?_item_concat {s : Sheet} {done : List Answer} {a b : Answer} {id r c : Nat}
    (hafter : ∀ b ∈ done, b.pos.Before a.pos) (hb : b ∈ done) (hr : r < b.grid.height)
    (hc : c < b.grid.width) :
    ((s.makeRoom (move done a.pos) a.grid).put (move done a.pos) a.formula.format a.grid id).cells[
        item (done ++ [a]) b r c]? =
      s.cells[item done b r c]?.map (·.giveWay (move done a.pos) a.grid) := by
  have hfree :
      item (done ++ [a]) b r c ∉ Area.sized (move done a.pos) a.grid.width a.grid.height := by
    intro hmem
    obtain ⟨k, hk, l, hl, hx⟩ := Area.mem_sized_iff.1 hmem
    rw [← item_last hafter] at hx
    exact (hafter b hb).ne (pos_eq_of_item_eq_item (List.mem_append_right _ List.mem_cons_self)
      (List.mem_append_left _ hb) hk hl hr hc hx).symm
  rw [Sheet.getElem?_put_of_not_mem hfree, item_concat hb hr hc (hafter b hb),
    Sheet.getElem?_makeRoom]

namespace Laid

variable {template s : Sheet} {done : List Answer} {a : Answer} {cell : Cell}

theorem nil (template : Sheet) : Laid template [] template where
  name := rfl
  moved _ _ h _ := h
  items _ ha := absurd ha List.not_mem_nil
  stored x hx := .inl ⟨x, hx, fun _ ha => absurd ha List.not_mem_nil, rfl⟩
  covering _ := rfl

theorem pending {c : CellRef} {text : String} (h : Laid template done s)
    (hcell : template.cells[c]? = some cell) (htext : cell.value = .text text)
    (hnew : ∀ a ∈ done, a.pos ≠ c) : s.cells[move done c]? = some cell := by
  rw [h.moved c cell hcell hnew, Cell.follow_eq]
  rw [htext]
  simp

theorem valueAt_makeRoom (hcell : s.cells[pos]? = some cell) (htext : cell.value = .text a.text)
    {r c : Nat} (hr : r < a.grid.height) (hc : c < a.grid.width) :
    (s.makeRoom pos a.grid).valueAt (pos.offset c r) =
      if r = 0 ∧ c = 0 then .text a.text else .empty := by
  split
  case isTrue h =>
    obtain ⟨rfl, rfl⟩ := h
    have hroom := s.getElem?_makeRoom pos a.grid pos
    rw [giveWay_self, hcell, Option.map_some, Cell.giveWay_eq (by simp [htext])] at hroom
    exact htext ▸ congrArg Cell.value (Sheet.cellAt_eq_of_getElem? hroom)
  case isFalse h =>
    have hnone := s.offset_not_mem_makeRoom pos a.grid hr hc h
    rw [Sheet.valueAt, Sheet.cellAt, Std.TreeMap.getElem?_eq_none hnone]
    rfl

theorem concat (h : Laid template done s) (hcell : template.cells[a.pos]? = some cell)
    (htext : cell.value = .text a.text) (hafter : ∀ b ∈ done, b.pos.Before a.pos) (id : Nat) :
    Laid template (done ++ [a])
      ((s.makeRoom (move done a.pos) a.grid).put (move done a.pos) a.formula.format a.grid id) := by
  have ha : a ∈ done ++ [a] := List.mem_append_right _ List.mem_cons_self
  have hdone : ∀ b ∈ done, b ∈ done ++ [a] := fun b hb => List.mem_append_left _ hb
  -- The cells of the new answer are no others' cells.
  have hfree : ∀ c, (∀ b ∈ done ++ [a], b.pos ≠ c) →
      move (done ++ [a]) c ∉ Area.sized (move done a.pos) a.grid.width a.grid.height := by
    intro c hc hmem
    obtain ⟨r, hr, k, hk, hx⟩ := Area.mem_sized_iff.1 hmem
    rw [← item_last hafter] at hx
    exact hc a ha (pos_eq_of_item_eq_move ha hr hk hx)
  constructor
  case name => rw [Sheet.frame_put.1, Sheet.name_makeRoom, h.name]
  case moved =>
    intro c cell' hcell' hc
    rw [Sheet.getElem?_put_of_not_mem (hfree c hc), move_concat, Sheet.getElem?_makeRoom,
      h.moved c cell' hcell' fun b hb => hc b (hdone b hb), Cell.follow_concat]
    rfl
  case items =>
    intro b hb r hr c hc
    rcases List.mem_append.1 hb with hb | hb
    · obtain ⟨id', hid'⟩ := h.items b hb r hr c hc
      refine ⟨id', ?_⟩
      rw [getElem?_item_concat hafter hb hr hc, hid', Option.map_some,
        Cell.giveWay_eq (b.valueAt_ne_formula r c)]
    · obtain rfl := List.mem_singleton.1 hb
      refine ⟨id, ?_⟩
      rw [item_last hafter, Sheet.getElem?_put_offset hr hc,
        valueAt_makeRoom (h.pending hcell htext fun b hb => (hafter b hb).ne) htext hr hc]
      rfl
  case stored =>
    intro x hx
    rcases Sheet.mem_put.1 hx with hmem | hmoved
    · obtain ⟨r, hr, c, hc, hx⟩ := Area.mem_sized_iff.1 hmem
      exact .inr ⟨a, ha, r, hr, c, hc, by rw [item_last hafter, hx]⟩
    · obtain ⟨y, hy, rfl⟩ := (s.mem_makeRoom ..).1 hmoved
      rcases h.stored y hy with ⟨c, hc, hnot, rfl⟩ | ⟨b, hb, r, hr, c, hc, rfl⟩
      · -- A cell that was stored has moved along, unless the formula itself stood there.
        by_cases hpos : a.pos = c
        · subst hpos
          refine .inr ⟨a, ha, 0, a.grid.height_pos, 0, a.grid.width_pos, ?_⟩
          rw [item_last hafter, giveWay_self]
          rfl
        · refine .inl ⟨c, hc, ?_, move_concat done a c⟩
          rw [List.forall_mem_append, List.forall_mem_singleton]
          exact ⟨hnot, hpos⟩
      · exact .inr ⟨b, hdone b hb, r, hr, c, hc, item_concat hb hr hc (hafter b hb)⟩
  case covering =>
    intro c
    rw [Sheet.frame_put.2, Sheet.merges_makeRoom, move_concat, covered_giveWay, h.covering]

end Laid

end Layout

theorem Canvas.laid_fill (t : Canvas) {done : List Answer} (h : t.sheet.OpenedBy done) :
    Layout.Laid t.sheet done (t.fill done).sheet := by
  induction done using List.reverseRecOn with
  | nil => exact .nil t.sheet
  | append_singleton done a ih =>
    obtain ⟨cell, hcell, htext, -⟩ :=
      Sheet.mem_slots.1 (h.mem_slots (a := a) (List.mem_append_right _ List.mem_cons_self))
    rw [fill_concat]
    exact (ih h.of_concat).concat hcell htext (fun b hb => h.before_last hb) _

end SheetTemplate
