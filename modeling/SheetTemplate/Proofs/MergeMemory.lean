import SheetTemplate.Render.Merges

namespace SheetTemplate

class LawfulMergeLookup (κ : Type) [MergeLookup κ] where
  Agrees : List Area → κ → Prop
  agrees_start (areas : List Area) : Agrees areas MergeLookup.start
  ask_eq {areas : List Area} {k : κ} (h : Agrees areas k) (c : CellRef) :
    (MergeLookup.ask areas c k).1 = covered areas c
  agrees_ask {areas : List Area} {k : κ} (h : Agrees areas k) (c : CellRef) :
    Agrees areas (MergeLookup.ask areas c k).2
  agrees_invalidate {areas : List Area} {k : κ} (h : Agrees areas k) (areas' : List Area) :
    Agrees areas' (MergeLookup.invalidate k)

instance : LawfulMergeLookup Reread where
  Agrees _ _ := True
  agrees_start _ := trivial
  ask_eq _ _ := rfl
  agrees_ask _ _ := trivial
  agrees_invalidate _ _ := trivial

namespace MergeCache

/-- Nothing was read in a generation to come, and what was read in the present one still holds. -/
structure Agrees (areas : List Area) (k : MergeCache) : Prop where
  loaded_le : ∀ g, k.loadedAt = some g → g ≤ k.generation
  areas_eq : k.loadedAt = some k.generation → k.areas = areas

variable {areas : List Area} {k : MergeCache}

theorem areas_refresh (h : k.Agrees areas) : (k.refresh areas).areas = areas := by
  unfold refresh
  split
  case isTrue hk => exact h.areas_eq hk
  case isFalse => rfl

theorem agrees_refresh (h : k.Agrees areas) : (k.refresh areas).Agrees areas := by
  unfold refresh
  split
  case isTrue => exact h
  case isFalse => exact ⟨fun g hg => Nat.le_of_eq (Option.some.inj hg).symm, fun _ => rfl⟩

theorem agrees_invalidate (h : k.Agrees areas) (areas' : List Area) :
    k.invalidate.Agrees areas' := by
  constructor
  · intro g hg
    exact Nat.le_succ_of_le (h.loaded_le g hg)
  · intro hk
    exact absurd (h.loaded_le _ hk) (Nat.not_succ_le_self _)

instance : LawfulMergeLookup MergeCache where
  Agrees := Agrees
  agrees_start _ := ⟨fun _ hg => (nomatch hg), fun hk => (nomatch hk)⟩
  ask_eq h c := by
    change covered (refresh _ _).areas c = _
    rw [areas_refresh h]
  agrees_ask h _ := agrees_refresh h
  agrees_invalidate h areas' := agrees_invalidate h areas'

end MergeCache

end SheetTemplate
