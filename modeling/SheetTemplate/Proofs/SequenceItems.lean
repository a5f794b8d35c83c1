import SheetTemplate.Expression.CelValue
import SheetTemplate.Expression.RhaiValue
import SheetTemplate.Proofs.Failing

namespace SheetTemplate

section Measured

variable {α : Type} [Queryable (Except EngineError) α]

structure ItemsBelow (n : Nat) (v : α) : Prop where
  found : ∀ i < n, ∃ w, (Queryable.item v i : Except EngineError α) = .ok w
  refused : ∀ i, n ≤ i →
    ∃ reason, (Queryable.item v i : Except EngineError α) = .error (.extraction reason)

/-- The length of a value tells its items. One that is no sequence has no items at all. -/
def Measured (v : α) : Prop :=
  ∃ n : Option Nat, (Queryable.length v : Except EngineError (Option Nat)) = .ok n ∧
    ItemsBelow (n.getD 0) v

variable (α) in
/-- Values that answer whatever they are asked, but for items beyond their length. -/
structure Answering : Prop where
  text : ∀ v : α, ∃ t, (Queryable.text v : Except EngineError String) = .ok t
  number : ∀ v : α, ∃ q, (Queryable.number v : Except EngineError (Option Quantity)) = .ok q
  measured : ∀ v : α, Measured v

theorem exists_map_ok {ε β γ : Type} {x : Except ε β} (g : β → γ) (h : ∃ b, x = .ok b) :
    ∃ c, g <$> x = .ok c := by
  obtain ⟨b, rfl⟩ := h
  exact ⟨g b, rfl⟩

theorem exists_mapM_ok {ε ι β : Type} {f : ι → Except ε β} {l : List ι}
    (h : ∀ i ∈ l, ∃ b, f i = .ok b) : ∃ bs, l.mapM f = .ok bs := by
  induction l with
  | nil => exact ⟨[], rfl⟩
  | cons i l ih =>
    obtain ⟨b, hb⟩ := h i List.mem_cons_self
    obtain ⟨bs, hbs⟩ := ih fun j hj => h j (List.mem_cons_of_mem i hj)
    exact ⟨b :: bs, by rw [List.mapM_cons, hb, hbs]; rfl⟩

/-- Only items below the length are asked for, so what can be made of every value can be made of
every item. -/
theorem exists_forItems {β : Type} {f : α → Except EngineError β} {v : α} (hv : Measured v)
    (hf : ∀ w, ∃ b, f w = .ok b) : ∃ bs, forItems f v = .ok bs := by
  obtain ⟨n, hn, hitems⟩ := hv
  rw [forItems, hn, ok_bind]
  cases n with
  | none => exact exists_map_ok _ (hf v)
  | some n =>
    refine exists_mapM_ok fun i hi => ?_
    obtain ⟨w, hw⟩ := hitems.found i (List.mem_range.1 hi)
    rw [hw, ok_bind]
    exact hf w

namespace Answering

variable (h : Answering α)

include h

theorem exists_scalar (kind : FormatKind) (v : α) :
    ∃ x, (extractScalar kind v : Except EngineError Scalar) = .ok x := by
  cases kind with
  | string => exact exists_map_ok _ (h.text v)
  | int | float | percent =>
    obtain ⟨q, hq⟩ := h.number v
    rw [extractScalar, hq, ok_bind]
    rcases q with _ | n | x <;> exact ⟨_, rfl⟩

theorem exists_vector (kind : FormatKind) (v : α) :
    ∃ items, (extractVector kind v : Except EngineError (List Scalar)) = .ok items :=
  exists_forItems (h.measured v) (h.exists_scalar kind)

theorem exists_rows (d : Direction) (kind : FormatKind) (v : α) :
    ∃ rows, (valueRows d kind v : Except EngineError (List (List Scalar))) = .ok rows := by
  cases d with
  | cell => exact exists_map_ok _ (h.exists_scalar kind v)
  | horizontal | vertical => exact exists_map_ok _ (h.exists_vector kind v)
  | table => exact exists_forItems (h.measured v) (h.exists_vector kind)

theorem exists_shape (d : Direction) (format : FormatSpec) (v : α) :
    ∃ g, (shape d format v : Except EngineError Grid) = .ok g :=
  exists_map_ok _ (h.exists_rows d format.kind v)

end Answering

end Measured

/-- The items are those of a table that has an entry for every index below the length. -/
theorem measured_of_table {α : Type} [Queryable (Except EngineError) α] {v : α} {n : Option Nat}
    {item? : Nat → Option α} {reason : Nat → String}
    (hlength : (Queryable.length v : Except EngineError (Option Nat)) = .ok n)
    (hitem : ∀ i, (Queryable.item v i : Except EngineError α) =
      (item? i).elim (.error (.extraction (reason i))) .ok)
    (htable : ∀ i, (item? i).isSome ↔ i < n.getD 0) : Measured v := by
  refine ⟨n, hlength, fun i hi => ?_, fun i hi => ?_⟩
  · obtain ⟨w, hw⟩ := Option.isSome_iff_exists.1 ((htable i).2 hi)
    exact ⟨w, by rw [hitem, hw, Option.elim_some]⟩
  · have hnone : item? i = none := by
      rw [← Option.not_isSome_iff_eq_none, htable]
      omega
    exact ⟨reason i, by rw [hitem, hnone, Option.elim_none]⟩

namespace Rhai

theorem item_eq (v : Value) (i : Nat) :
    (Queryable.item v i : Except EngineError Value) =
      (v.item? i).elim (.error (.extraction ("rhai value has no item " ++ Number.natText i)))
        .ok := by
  simp only [Queryable.item]
  cases v.item? i <;> rfl

theorem isSome_item? (v : Value) (i : Nat) : (v.item? i).isSome ↔ i < v.length?.getD 0 := by
  cases v <;> simp [Value.item?, Value.length?]

theorem answering : Answering Value where
  text v := ⟨v.display, rfl⟩
  number v := ⟨v.quantity?, rfl⟩
  measured v := measured_of_table rfl (item_eq v) (isSome_item? v)

/-- The whole numbers that follow one another from `first` on, `count` of them, and none if `count`
is negative. -/
structure Consecutive (v : Value) (first count : Int) : Prop where
  length : ∃ n : Nat, (n : Int) = max 0 count ∧
    (Queryable.length v : Except EngineError (Option Nat)) = .ok (some n)
  item : ∀ i : Nat, (i : Int) < count →
    (Queryable.item v i : Except EngineError Value) = .ok (.int (first + i))

theorem consecutive_range (a b : Int) : Consecutive (.range a b) a (b - a) where
  length := ⟨(b - a).toNat, by omega, rfl⟩
  item i hi := by
    have hitem : (Value.range a b).item? i = some (.int (a + i)) := if_pos (by omega)
    rw [item_eq, hitem, Option.elim_some]

theorem consecutive_closedRange (a b : Int) : Consecutive (.closedRange a b) a (b - a + 1) where
  length := ⟨(b - a + 1).toNat, by omega, rfl⟩
  item i hi := by
    have hitem : (Value.closedRange a b).item? i = some (.int (a + i)) := if_pos (by omega)
    rw [item_eq, hitem, Option.elim_some]

end Rhai

namespace Cel

theorem item_eq (v : Value) (i : Nat) :
    (Queryable.item v i : Except EngineError Value) =
      (v.item? i).elim (.error (.extraction ("cel value has no item " ++ Number.natText i)))
        .ok := by
  simp only [Queryable.item]
  cases v.item? i <;> rfl

theorem isSome_item? (v : Value) (i : Nat) : (v.item? i).isSome ↔ i < v.length?.getD 0 := by
  cases v <;> simp [Value.item?, Value.length?]

theorem answering : Answering Value where
  text v := ⟨v.display, rfl⟩
  number v := ⟨v.quantity?, rfl⟩
  measured v := measured_of_table rfl (item_eq v) (isSome_item? v)

end Cel

/-- The length of a value of Rhai or CEL tells exactly which of its items there are. Ranges hold the
whole numbers between their ends. So every such value has a grid, in any direction and format. -/
theorem shape_sequenceItems :
    (∀ v : Rhai.Value, Measured v) ∧ (∀ v : Cel.Value, Measured v) ∧
      (∀ a b : Int, Rhai.Consecutive (.range a b) a (b - a)) ∧
      (∀ a b : Int, Rhai.Consecutive (.closedRange a b) a (b - a + 1)) ∧
      (∀ (d : Direction) (format : FormatSpec) (v : Rhai.Value),
        ∃ g, (shape d format v : Except EngineError Grid) = .ok g) ∧
      ∀ (d : Direction) (format : FormatSpec) (v : Cel.Value),
        ∃ g, (shape d format v : Except EngineError Grid) = .ok g :=
  ⟨Rhai.answering.measured, Cel.answering.measured, Rhai.consecutive_range,
    Rhai.consecutive_closedRange, Rhai.answering.exists_shape, Cel.answering.exists_shape⟩

/-- The ends of this range are in the wrong order, so there is nothing in it but padding. -/
example :
    (shape .vertical ⟨.int, -1⟩ (Rhai.Value.closedRange 3 1) : Except EngineError Grid).map
      Grid.rows = .ok [[.int 0]] := by
  rfl

end SheetTemplate
