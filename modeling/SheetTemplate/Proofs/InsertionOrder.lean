import Mathlib.Data.List.Sort
import SheetTemplate.Proofs.Relocation
import SheetTemplate.Proofs.SheetInsertion

namespace SheetTemplate

variable {axis axis' : Axis} {i j k a b : Nat}

theorem shiftIndex_add (hi : i ≤ k) (hk : k ≤ i + a) (x : Nat) :
    shiftIndex k b (shiftIndex i a x) = shiftIndex i (a + b) x := by
  unfold shiftIndex
  split_ifs <;> omega

theorem shiftIndex_comm (h : i ≤ j) (x : Nat) :
    shiftIndex i a (shiftIndex j b x) = shiftIndex (j + a) b (shiftIndex i a x) := by
  unfold shiftIndex
  split_ifs <;> omega

theorem shiftIndex_lt_iff {start count x y : Nat} :
    shiftIndex start count x < shiftIndex start count y ↔ x < y := by
  unfold shiftIndex
  split_ifs <;> omega

namespace CellRef

theorem shift_shift (axis : Axis) (i a j b : Nat) (c : CellRef) :
    (c.shift axis i a).shift axis j b =
      axis.place c (shiftIndex j b (shiftIndex i a (axis.coordinate c))) := by
  cases axis <;> rfl

theorem shift_add (hi : i ≤ k) (hk : k ≤ i + a) (c : CellRef) :
    (c.shift axis i a).shift axis k b = c.shift axis i (a + b) := by
  rw [shift_shift, shiftIndex_add hi hk, shift]

theorem shift_comm (h : i ≤ j) (c : CellRef) :
    (c.shift axis j b).shift axis i a = (c.shift axis i a).shift axis (j + a) b := by
  rw [shift_shift, shift_shift, shiftIndex_comm h]

theorem shift_before_shift_iff {start count : Nat} {c d : CellRef} :
    (c.shift axis start count).Before (d.shift axis start count) ↔ c.Before d := by
  cases axis <;>
    simp only [Before, shift, Axis.place, Axis.coordinate, shiftIndex_lt_iff, shiftIndex_inj]

end CellRef

namespace Area

/-- The ends need not stand in order. -/
theorem shiftEnds_add {low high : Nat} (hi : i ≤ k) (hk : k ≤ i + a) :
    shiftEnds k b (shiftEnds i a low high).1 (shiftEnds i a low high).2 =
      shiftEnds i (a + b) low high := by
  grind [shiftEnds]

theorem shiftEnds_comm {low high : Nat} (h : i ≤ j) :
    shiftEnds i a (shiftEnds j b low high).1 (shiftEnds j b low high).2 =
      shiftEnds (j + a) b (shiftEnds i a low high).1 (shiftEnds i a low high).2 := by
  grind [shiftEnds]

theorem shift_add (hi : i ≤ k) (hk : k ≤ i + a) (m : Area) :
    (m.shift axis i a).shift axis k b = m.shift axis i (a + b) := by
  cases axis <;> simp only [shift, shiftEnds_add hi hk]

theorem shift_comm (h : i ≤ j) (m : Area) :
    (m.shift axis j b).shift axis i a = (m.shift axis i a).shift axis (j + a) b := by
  cases axis <;> simp only [shift, shiftEnds_comm h]

end Area

theorem CellMap.toList_eq {m : CellMap} {l : List (CellRef × Cell)}
    (hl : l.Pairwise fun x y => x.1.Before y.1) (h : ∀ c v, (c, v) ∈ l ↔ m[c]? = some v) :
    m.toList = l := by
  let before (x y : CellRef × Cell) : Prop := x.1.Before y.1
  have : Std.Irrefl before := ⟨fun x hx => hx.ne rfl⟩
  have : Std.Antisymm before := ⟨fun x y hxy hyx => absurd rfl (hxy.trans hyx).ne⟩
  have hm : m.toList.Pairwise before :=
    Std.TreeMap.ordered_keys_toList.imp CellRef.compare_eq_lt_iff.1
  refine hm.eq_of_mem_iff hl ?_
  rintro ⟨c, v⟩
  rw [Std.TreeMap.mem_toList_iff_getElem?_eq_some, h]

namespace Sheet

variable {s : Sheet}

/-- An insertion keeps the order of the cells. -/
theorem toList_insert (s : Sheet) (axis : Axis) (start count : Nat) :
    (s.insert axis start count).cells.toList =
      s.cells.toList.map fun (c, v) => (c.shift axis start count, v.carry axis start count) := by
  apply CellMap.toList_eq
  · rw [List.pairwise_map]
    refine Std.TreeMap.ordered_keys_toList.imp ?_
    intro x y hxy
    exact CellRef.shift_before_shift_iff.2 (CellRef.compare_eq_lt_iff.1 hxy)
  · intro x v
    rw [List.mem_map]
    constructor
    · rintro ⟨⟨c, cell⟩, hc, heq⟩
      obtain ⟨rfl, rfl⟩ := Prod.mk.inj heq
      rw [Std.TreeMap.mem_toList_iff_getElem?_eq_some] at hc
      rw [getElem?_insert_shift, hc, Option.map_some]
    · intro hx
      obtain ⟨c, -, rfl⟩ := (s.mem_insert axis start count).1 (mem_cells_iff.2 ⟨v, hx⟩)
      rw [getElem?_insert_shift] at hx
      obtain ⟨cell, hcell, rfl⟩ := Option.map_eq_some_iff.1 hx
      exact ⟨(c, cell), Std.TreeMap.mem_toList_iff_getElem?_eq_some.2 hcell, rfl⟩

def Refers (s : Sheet) (d : CellRef) : Prop :=
  ∃ (pos : CellRef) (cell : Cell), s.cells[pos]? = some cell ∧ cell.value.Refers d

def relocate (f : CellRef → CellRef) (g : Area → Area) (s : Sheet) : Sheet :=
  { s with
    cells := .ofList (s.cells.toList.map fun (c, v) => (f c, v.relocate f))
    merges := s.merges.map g }

theorem insert_of_ne_zero {start count : Nat} (h : count ≠ 0) (s : Sheet) (axis : Axis) :
    s.insert axis start count =
      { s with
        cells := .ofList (s.cells.toList.map fun (c, v) =>
          (c.shift axis start count, v.carry axis start count))
        merges := s.merges.map (·.shift axis start count) } := by
  simp only [insert, Cell.carry, if_neg h]

theorem insert_insert (h : a + b ≠ 0) (s : Sheet) (axis axis' : Axis) (i j : Nat) :
    (s.insert axis i a).insert axis' j b =
      { s with
        cells := .ofList (s.cells.toList.map fun (c, v) =>
          ((c.shift axis i a).shift axis' j b, (v.carry axis i a).carry axis' j b))
        merges := s.merges.map fun m => (m.shift axis i a).shift axis' j b } := by
  by_cases hb : b = 0
  · have ha : a ≠ 0 := by omega
    have hcarry (v : Cell) : v.carry axis' j 0 = v := if_pos rfl
    rw [hb, insert_zero, insert_of_ne_zero ha]
    simp only [CellRef.shift_zero, Area.shift_zero, hcarry]
  · rw [insert_of_ne_zero hb, toList_insert, merges_insert, name_insert]
    simp only [List.map_map]
    rfl

theorem carry_carry {pos : CellRef} {v : Cell} (hv : s.cells[pos]? = some v)
    (hw : ∀ d, s.Refers d → ((d.shift axis i a).shift axis' j b).Writable) :
    (v.carry axis i a).carry axis' j b =
      v.relocate (CellRef.shift axis' j b ∘ CellRef.shift axis i a) := by
  have hrefers : ∀ d, v.value.Refers d → s.Refers d := fun d hd => ⟨pos, v, hv, hd⟩
  obtain ⟨hfirst, hrereads⟩ := Cell.carry_relocate v.rereads_id CellRef.grows_id
    fun d hd => (CellRef.grows_shift axis' j b).writable (hw d (hrefers d hd))
  rw [Cell.relocate_id, Function.comp_id] at hfirst
  rw [hfirst]
  exact (Cell.carry_relocate hrereads (CellRef.grows_shift axis i a)
    fun d hd => hw d (hrefers d hd)).1

theorem insert_insert_eq_relocate (h : a + b ≠ 0)
    (hw : ∀ d, s.Refers d → ((d.shift axis i a).shift axis' j b).Writable) :
    (s.insert axis i a).insert axis' j b =
      s.relocate (CellRef.shift axis' j b ∘ CellRef.shift axis i a)
        (Area.shift axis' j b ∘ Area.shift axis i a) := by
  rw [insert_insert h, relocate]
  congr 2
  refine List.map_congr_left ?_
  rintro ⟨c, v⟩ hv
  rw [Std.TreeMap.mem_toList_iff_getElem?_eq_some] at hv
  dsimp only
  rw [carry_carry hv hw]
  rfl

/-- Two pairs of insertions that make up the same map make up the same sheet. -/
theorem insert_insert_congr {axis₁ axis₂ : Axis} {i' j' a' b' : Nat} (hsum : a + b = a' + b')
    (hcells : ∀ c : CellRef,
      (c.shift axis i a).shift axis' j b = (c.shift axis₁ i' a').shift axis₂ j' b')
    (hareas : ∀ m : Area,
      (m.shift axis i a).shift axis' j b = (m.shift axis₁ i' a').shift axis₂ j' b')
    (hw : ∀ d, s.Refers d → ((d.shift axis i a).shift axis' j b).Writable) :
    (s.insert axis i a).insert axis' j b = (s.insert axis₁ i' a').insert axis₂ j' b' := by
  by_cases h : a + b = 0
  · obtain ⟨rfl, rfl⟩ : a = 0 ∧ b = 0 := by omega
    obtain ⟨rfl, rfl⟩ : a' = 0 ∧ b' = 0 := by omega
    simp only [insert_zero]
  · rw [insert_insert_eq_relocate h hw, insert_insert_eq_relocate (hsum ▸ h) fun d hd => ?_]
    · exact congrArg₂ (s.relocate · ·) (funext hcells) (funext hareas)
    · rw [← hcells]
      exact hw d hd

/-- Insertions into one gap add up; insertions in one direction may change places, and so may those
of rows and of columns. -/
theorem insertion_laws (s : Sheet) :
    (∀ (axis : Axis) (i a k b : Nat), i ≤ k → k ≤ i + a →
      (∀ d, s.Refers d → (d.shift axis i (a + b)).Writable) →
      (s.insert axis i a).insert axis k b = s.insert axis i (a + b)) ∧
    (∀ (axis : Axis) (i j a b : Nat), i ≤ j →
      (∀ d, s.Refers d → ((d.shift axis j b).shift axis i a).Writable) →
      (s.insert axis j b).insert axis i a = (s.insert axis i a).insert axis (j + a) b) ∧
    ∀ i a j b : Nat,
      (∀ d, s.Refers d → ((d.shift .row i a).shift .column j b).Writable) →
      (s.insert .row i a).insert .column j b = (s.insert .column j b).insert .row i a := by
  refine ⟨?_, ?_, ?_⟩
  · intro axis i a k b hi hk hw
    rw [← insert_zero (s.insert axis i (a + b)) axis 0]
    refine insert_insert_congr rfl ?_ ?_ ?_
    · intro c
      rw [CellRef.shift_add hi hk, CellRef.shift_zero]
    · intro m
      rw [Area.shift_add hi hk, Area.shift_zero]
    · intro d hd
      rw [CellRef.shift_add hi hk]
      exact hw d hd
  · intro axis i j a b h hw
    exact insert_insert_congr (Nat.add_comm b a) (CellRef.shift_comm h) (Area.shift_comm h) hw
  · intro i a j b hw
    exact insert_insert_congr (Nat.add_comm a b) (fun _ => rfl) (fun _ => rfl) hw

theorem refers_nativeSample {d : CellRef} (h : nativeSample.Refers d) :
    d = ⟨0, 0⟩ ∨ d = ⟨1, 1⟩ := by
  have hcells : nativeSample.cells.toList =
      [(⟨0, 0⟩, ⟨.text "\x7b\x7b[x]a\x7d\x7d", 0⟩), (⟨1, 1⟩, ⟨.formula "A1+$b02", 0⟩)] := by
    rfl
  obtain ⟨pos, cell, hcell, text, pre, t, post, hvalue, hoccurs⟩ := h
  rw [← Std.TreeMap.mem_toList_iff_getElem?_eq_some, hcells] at hcell
  simp only [List.mem_cons, Prod.mk.injEq, List.not_mem_nil, or_false] at hcell
  rcases hcell with ⟨rfl, rfl⟩ | ⟨rfl, rfl⟩
  · cases hvalue
  · cases hvalue
    exact occurs_nativeSample hoccurs

theorem insertion_laws_sample :
    (∀ d, nativeSample.Refers d → (d.shift .row 1 (2 + 3)).Writable) ∧
      (nativeSample.insert .row 1 2).insert .row 3 3 = nativeSample.insert .row 1 (2 + 3) ∧
      (nativeSample.insert .row 3 1).insert .row 1 2 =
        (nativeSample.insert .row 1 2).insert .row (3 + 2) 1 ∧
      (nativeSample.insert .row 1 2).insert .column 1 4 =
        (nativeSample.insert .column 1 4).insert .row 1 2 := by
  have hw (f : CellRef → CellRef) (h₀ : (f ⟨0, 0⟩).Writable) (h₁ : (f ⟨1, 1⟩).Writable)
      (d : CellRef) (hd : nativeSample.Refers d) : (f d).Writable := by
    rcases refers_nativeSample hd with rfl | rfl
    · exact h₀
    · exact h₁
  obtain ⟨hadd, hcomm, hacross⟩ := insertion_laws nativeSample
  have hw₁ := hw (·.shift .row 1 (2 + 3)) (by decide) (by decide)
  have hw₂ := hw (fun d => (d.shift .row 3 1).shift .row 1 2) (by decide) (by decide)
  have hw₃ := hw (fun d => (d.shift .row 1 2).shift .column 1 4) (by decide) (by decide)
  exact ⟨hw₁, hadd .row 1 2 3 3 (by decide) (by decide) hw₁,
    hcomm .row 1 3 2 1 (by decide) hw₂, hacross 1 2 1 4 hw₃⟩

end Sheet

end SheetTemplate
