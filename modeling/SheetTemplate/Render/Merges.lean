import SheetTemplate.Cell.Area

namespace SheetTemplate

class MergeLookup (κ : Type) where
  start : κ
  ask : List Area → CellRef → κ → Bool × κ
  invalidate : κ → κ

def covered (areas : List Area) (c : CellRef) : Bool := areas.any fun a => decide (c ∈ a)

inductive Reread where
  | reread

instance : MergeLookup Reread where
  start := .reread
  ask areas c k := (covered areas c, k)
  invalidate k := k

/-- Keeps the regions as they were when the sheet had its present generation. -/
structure MergeCache where
  generation : Nat
  loadedAt : Option Nat
  areas : List Area

namespace MergeCache

def empty : MergeCache := ⟨0, none, []⟩

def refresh (areas : List Area) (k : MergeCache) : MergeCache :=
  if k.loadedAt = some k.generation then k else ⟨k.generation, some k.generation, areas⟩

def ask (areas : List Area) (c : CellRef) (k : MergeCache) : Bool × MergeCache :=
  let k' := k.refresh areas
  (covered k'.areas c, k')

def invalidate (k : MergeCache) : MergeCache := { k with generation := k.generation + 1 }

instance : MergeLookup MergeCache := ⟨empty, ask, invalidate⟩

end MergeCache

end SheetTemplate
