import SheetTemplate.Render.Pass

namespace SheetTemplate

namespace CellRef

/-- The order of the rows, and of the columns within a row. -/
def Before (c d : CellRef) : Prop := c.row < d.row ∨ c.row = d.row ∧ c.col < d.col

theorem compare_eq_lt_iff {c d : CellRef} : compare c d = .lt ↔ c.Before d := by
  change (compare c.row d.row).then (compare c.col d.col) = .lt ↔ _
  rw [Ordering.then_eq_lt, Nat.compare_eq_lt, Nat.compare_eq_lt, Nat.compare_eq_eq]
  rfl

theorem Before.trans {c d e : CellRef} (h : c.Before d) (h' : d.Before e) : c.Before e := by
  unfold Before at *
  omega

theorem Before.ne {c d : CellRef} (h : c.Before d) : c ≠ d := by
  rintro rfl
  unfold Before at h
  omega

end CellRef

/-- A formula of a template with its place and the text that spells it. -/
structure Slot where
  pos : CellRef
  text : String
  formula : Formula

def Slot.ofCell? (merges : List Area) (pos : CellRef) (cell : Cell) : Option Slot :=
  if covered merges pos then none
  else cell.value.text?.bind fun text => (Formula.ofText? text).map fun f => ⟨pos, text, f⟩

theorem CellValue.text?_eq_some_iff {v : CellValue} {t : String} :
    v.text? = some t ↔ v = .text t := by
  cases v <;> simp [text?]

theorem Slot.ofCell?_eq_some_iff {merges : List Area} {pos : CellRef} {cell : Cell} {slot : Slot} :
    ofCell? merges pos cell = some slot ↔
      slot.pos = pos ∧ cell.value = .text slot.text ∧
        Formula.ofText? slot.text = some slot.formula ∧ covered merges pos = false := by
  unfold ofCell?
  by_cases hcov : covered merges pos = true
  · simp [hcov]
  · rw [if_neg hcov, Option.bind_eq_some_iff]
    rw [Bool.not_eq_true] at hcov
    constructor
    · rintro ⟨text, htext, hmap⟩
      obtain ⟨f, hf, rfl⟩ := Option.map_eq_some_iff.1 hmap
      exact ⟨rfl, CellValue.text?_eq_some_iff.1 htext, hf, hcov⟩
    · rintro ⟨rfl, htext, hf, -⟩
      exact ⟨slot.text, CellValue.text?_eq_some_iff.2 htext, Option.map_eq_some_iff.2 ⟨_, hf, rfl⟩⟩

namespace Sheet

def slots (s : Sheet) : List Slot :=
  s.cells.toList.filterMap fun (pos, cell) => Slot.ofCell? s.merges pos cell

theorem mem_slots {s : Sheet} {slot : Slot} :
    slot ∈ s.slots ↔ ∃ cell, s.cells[slot.pos]? = some cell ∧ cell.value = .text slot.text ∧
      Formula.ofText? slot.text = some slot.formula ∧ covered s.merges slot.pos = false := by
  simp only [slots, List.mem_filterMap, Prod.exists, Std.TreeMap.mem_toList_iff_getElem?_eq_some,
    Slot.ofCell?_eq_some_iff]
  constructor
  · rintro ⟨pos, cell, hcell, rfl, h⟩
    exact ⟨cell, hcell, h⟩
  · rintro ⟨cell, hcell, h⟩
    exact ⟨slot.pos, cell, hcell, rfl, h⟩

theorem slots_pairwise (s : Sheet) : s.slots.Pairwise fun a b => a.pos.Before b.pos := by
  refine List.Pairwise.filterMap _ ?_ (Std.TreeMap.ordered_keys_toList (t := s.cells))
  rintro ⟨pos, cell⟩ ⟨pos', cell'⟩ hlt a ha b hb
  obtain ⟨ha, -⟩ := Slot.ofCell?_eq_some_iff.1 ha
  obtain ⟨hb, -⟩ := Slot.ofCell?_eq_some_iff.1 hb
  rw [ha, hb]
  exact CellRef.compare_eq_lt_iff.1 hlt

theorem length_slots_le (s : Sheet) : s.slots.length ≤ s.textCount := by
  rw [slots, textCount, List.length_filterMap_eq_countP, ← List.countP_eq_length_filter]
  apply List.countP_mono_left
  rintro ⟨pos, cell⟩ - h
  obtain ⟨slot, hslot⟩ := Option.isSome_iff_exists.1 h
  obtain ⟨-, htext, -⟩ := Slot.ofCell?_eq_some_iff.1 hslot
  change cell.value.text?.isSome = true
  rw [htext]
  rfl

end Sheet

structure Answer extends Slot where
  grid : Grid

/-- The answers are those to the first formulas of a template. -/
def Sheet.OpenedBy (s : Sheet) (done : List Answer) : Prop := done.map Answer.toSlot <+: s.slots

namespace Sheet.OpenedBy

variable {s : Sheet} {done : List Answer} {a b : Answer} {slot : Slot} {rest : List Slot}

theorem nil (s : Sheet) : s.OpenedBy [] := List.nil_prefix

theorem of_concat (h : s.OpenedBy (done ++ [a])) : s.OpenedBy done := by
  unfold OpenedBy at h
  rw [List.map_append] at h
  exact (List.prefix_append _ _).trans h

theorem mem_slots (h : s.OpenedBy done) (ha : a ∈ done) : a.toSlot ∈ s.slots :=
  h.subset (List.mem_map_of_mem ha)

theorem before (h : s.slots = done.map Answer.toSlot ++ slot :: rest) (hb : b ∈ done) :
    b.pos.Before slot.pos := by
  have hsorted := s.slots_pairwise
  rw [h, List.pairwise_append] at hsorted
  exact hsorted.2.2 b.toSlot (List.mem_map_of_mem hb) slot List.mem_cons_self

theorem pos_ne (h : s.slots = done.map Answer.toSlot ++ slot :: rest) :
    ∀ a ∈ done, a.pos ≠ slot.pos :=
  fun _ ha => (before h ha).ne

theorem eq_or_before (h : s.slots = done.map Answer.toSlot ++ slot :: rest) {t : Slot}
    (ht : t ∈ s.slots) (hnew : ∀ a ∈ done, a.pos ≠ t.pos) : t = slot ∨ slot.pos.Before t.pos := by
  have hsorted := s.slots_pairwise
  rw [h, List.pairwise_append, List.pairwise_cons] at hsorted
  rw [h, List.mem_append, List.mem_cons] at ht
  rcases ht with ht | ht | ht
  · obtain ⟨a, ha, rfl⟩ := List.mem_map.1 ht
    exact absurd rfl (hnew a ha)
  · exact .inl ht
  · exact .inr (hsorted.2.1.1 t ht)

theorem before_last (h : s.OpenedBy (done ++ [a])) (hb : b ∈ done) : b.pos.Before a.pos := by
  obtain ⟨rest, h⟩ := h
  rw [List.map_append, List.append_assoc] at h
  exact before (h.symm : s.slots = done.map Answer.toSlot ++ a.toSlot :: rest) hb

theorem eq_of_pos_eq (h : s.OpenedBy done) (ha : a ∈ done) (hb : b ∈ done) (heq : a.pos = b.pos) :
    a = b := by
  have hsorted : done.Pairwise fun a b => a.pos.Before b.pos := by
    have hslots := s.slots_pairwise.sublist h.sublist
    rwa [List.pairwise_map] at hslots
  obtain ⟨before, after, rfl⟩ := List.append_of_mem ha
  rw [List.pairwise_append, List.pairwise_cons] at hsorted
  rcases List.mem_append.1 hb with hb | hb
  · exact absurd heq.symm (hsorted.2.2 b hb a List.mem_cons_self).ne
  · rcases List.mem_cons.1 hb with rfl | hb
    · rfl
    · exact absurd heq (hsorted.2.1.1 b hb).ne

end Sheet.OpenedBy

/-- An engine evaluates the formulas of the answers, in order, to their grids. -/
inductive Answered {σ : Type} [Evaluator σ] : σ → List Answer → σ → Prop
  | nil (e : σ) : Answered e [] e
  | cons {e e' e'' : σ} {a : Answer} {rest : List Answer}
      (eval : Evaluator.evaluate a.formula e = (.ok a.grid, e')) (tail : Answered e' rest e'') :
      Answered e (a :: rest) e''

namespace Answered

variable {σ : Type} [Evaluator σ] {e e' e'' : σ} {a : Answer} {as bs : List Answer}

theorem append (h : Answered e as e') (h' : Answered e' bs e'') : Answered e (as ++ bs) e'' := by
  induction h with
  | nil => exact h'
  | cons eval _ ih => exact .cons eval (ih h')

theorem concat (h : Answered e as e') (eval : Evaluator.evaluate a.formula e' = (.ok a.grid, e'')) :
    Answered e (as ++ [a]) e'' :=
  h.append (.cons eval (.nil e''))

end Answered

end SheetTemplate
