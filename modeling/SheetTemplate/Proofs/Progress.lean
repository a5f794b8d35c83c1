import SheetTemplate.Proofs.Answering
import SheetTemplate.Proofs.Blocks
import SheetTemplate.Proofs.Extent

namespace SheetTemplate

namespace Pass

variable {κ σ : Type} [MergeLookup κ] [LawfulMergeLookup κ] [Evaluator σ]

/-- What a pass that began as `p₀` has done. -/
structure Progress (p₀ : Pass κ σ) (done : List Answer) (p : Pass κ σ) : Prop where
  opened : p₀.sheet.OpenedBy done
  answered : Answered p₀.engine done p.engine
  canvas : p.canvas = p₀.canvas.fill done
  area : p.area = p₀.area.grow done
  written : p.written = done.map (Layout.block done)
  stats : p.stats = p₀.stats.count done
  coherent : p.Coherent

namespace Progress

variable {p₀ p p' : Pass κ σ} {done : List Answer} {s : Slot} {x : CellRef}

theorem nil (hwritten : p₀.written = []) (hcoherent : p₀.Coherent) : Progress p₀ [] p₀ where
  opened := .nil _
  answered := .nil _
  canvas := rfl
  area := rfl
  written := hwritten
  stats := rfl
  coherent := hcoherent

theorem idle (h : Progress p₀ done p) (hidle : p.Idle p') : Progress p₀ done p' := by
  obtain ⟨hcoherent, heq⟩ := hidle
  rw [heq] at hcoherent ⊢
  exact { h with coherent := hcoherent }

theorem sheet_eq (h : Progress p₀ done p) : p.sheet = (p₀.canvas.fill done).sheet :=
  congrArg Canvas.sheet h.canvas

theorem styles_eq (h : Progress p₀ done p) : p.styles = (p₀.canvas.fill done).styles :=
  congrArg Canvas.styles h.canvas

theorem laid (h : Progress p₀ done p) : Layout.Laid p₀.sheet done p.sheet := by
  rw [h.sheet_eq]
  exact Canvas.laid_fill p₀.canvas h.opened

theorem extent (h : Progress p₀ done p) (harea : p₀.sheet.extent? = some p₀.area) :
    p.sheet.extent? = some p.area := by
  rw [h.sheet_eq, h.area]
  exact Canvas.extent?_fill p₀.canvas h.opened harea

theorem covered_written (h : Progress p₀ done p) :
    covered p.written x = true ↔ ∃ a ∈ done, x ∈ Layout.block done a := by
  simp [covered, h.written]

theorem cell_pending (h : Progress p₀ done p) (hs : s ∈ p₀.sheet.slots)
    (hnew : ∀ a ∈ done, a.pos ≠ s.pos) :
    ∃ cell, p₀.sheet.cells[s.pos]? = some cell ∧ cell.value = .text s.text ∧
      p.sheet.cells[Layout.move done s.pos]? = some cell := by
  obtain ⟨cell, hcell, htext, -⟩ := Sheet.mem_slots.1 hs
  exact ⟨cell, hcell, htext, h.laid.pending hcell htext hnew⟩

theorem slotAt_pending (h : Progress p₀ done p) (hs : s ∈ p₀.sheet.slots)
    (hnew : ∀ a ∈ done, a.pos ≠ s.pos) :
    p.slotAt (Layout.move done s.pos) = some { s with pos := Layout.move done s.pos } := by
  obtain ⟨cell, -, htext, hcell⟩ := h.cell_pending hs hnew
  obtain ⟨-, -, -, hformula, hcovered⟩ := Sheet.mem_slots.1 hs
  have hfree : ¬ covered p.written (Layout.move done s.pos) = true := by
    rw [h.covered_written]
    rintro ⟨a, ha, hmem⟩
    exact hnew a ha (Layout.pos_eq_of_move_mem_block ha hmem)
  rw [slotAt, if_neg hfree, Slot.ofCell?_eq_some_iff, Sheet.cellAt_eq_of_getElem? hcell]
  exact ⟨rfl, htext, hformula, (h.laid.covering s.pos).trans hcovered⟩

/-- What is written is not looked at, so that it makes no formula. -/
theorem pending_of_slotAt (h : Progress p₀ done p) (hs : p.slotAt x = some s) :
    ∃ t ∈ p₀.sheet.slots, (∀ a ∈ done, a.pos ≠ t.pos) ∧ Layout.move done t.pos = x := by
  unfold slotAt at hs
  split at hs
  case isTrue => cases hs
  case isFalse hfree =>
    obtain ⟨-, htext, hformula, hcovered⟩ := Slot.ofCell?_eq_some_iff.1 hs
    have hx : x ∈ p.sheet.cells := by
      rw [Std.TreeMap.mem_iff_isSome_getElem?]
      by_contra hnone
      rw [Option.not_isSome_iff_eq_none] at hnone
      rw [Sheet.cellAt, hnone] at htext
      cases htext
    rcases h.laid.stored x hx with ⟨c, hc, hnew, rfl⟩ | ⟨a, ha, r, hr, c, hc, rfl⟩
    · obtain ⟨cell, hcell⟩ := Sheet.mem_cells_iff.1 hc
      have hmoved := h.laid.moved c cell hcell hnew
      rw [Sheet.cellAt_eq_of_getElem? hmoved] at htext
      have htext' : cell.value = .text s.text := by
        have halike := cell.alike_follow done
        rw [htext] at halike
        cases hvalue : cell.value <;> simp_all [CellValue.Alike]
      refine ⟨⟨c, s.text, s.formula⟩, Sheet.mem_slots.2 ⟨cell, hcell, htext', hformula, ?_⟩,
        hnew, rfl⟩
      rw [← hcovered, h.laid.covering]
    · exact absurd (h.covered_written.2 ⟨a, ha, Layout.item_mem_block hr hc⟩) hfree

variable {rest : List Slot} {c : CellRef}

theorem find_next (h : Progress p₀ done p) (harea : p₀.sheet.extent? = some p₀.area)
    (hsplit : p₀.sheet.slots = done.map Answer.toSlot ++ s :: rest)
    (hc : ¬ (Layout.move done s.pos).Before c) :
    ∃ p', p.Idle p' ∧ p.find c = (some (Layout.move done s.pos, s.found), p') := by
  have hmem : s ∈ p₀.sheet.slots := by simp [hsplit]
  have hnew := Sheet.OpenedBy.pos_ne hsplit
  obtain ⟨cell, -, -, hcell⟩ := h.cell_pending hmem hnew
  refine find_eq_some (s := { s with pos := Layout.move done s.pos }) h.coherent
    (h.slotAt_pending hmem hnew) ?_ hc ?_
  · exact Sheet.mem_of_extent? (h.extent harea) (Sheet.mem_cells_iff.2 ⟨cell, hcell⟩)
  · intro x hx
    by_contra hsome
    obtain ⟨t', ht'⟩ := Option.ne_none_iff_exists'.1 hsome
    obtain ⟨t, ht, htnew, rfl⟩ := h.pending_of_slotAt ht'
    rw [Layout.move_before_move_iff] at hx
    rcases Sheet.OpenedBy.eq_or_before hsplit ht htnew with rfl | hafter
    · exact hx.ne rfl
    · exact (hx.trans hafter).ne rfl

theorem find_end (h : Progress p₀ done p) (hall : done.map Answer.toSlot = p₀.sheet.slots)
    (c : CellRef) : ∃ p', p.Idle p' ∧ p.find c = (none, p') := by
  apply find_eq_none h.coherent
  intro x
  by_contra hsome
  obtain ⟨t', ht'⟩ := Option.ne_none_iff_exists'.1 hsome
  obtain ⟨t, ht, hnew, -⟩ := h.pending_of_slotAt ht'
  rw [← hall] at ht
  obtain ⟨a, ha, rfl⟩ := List.mem_map.1 ht
  exact hnew a ha rfl

theorem take {a : Answer} {engine : σ} {journal : Journal} {merges : κ} (h : Progress p₀ done p)
    (hsplit : p₀.sheet.slots = done.map Answer.toSlot ++ a.toSlot :: rest)
    (heval : Evaluator.evaluate a.formula p.engine = (.ok a.grid, engine))
    (hcoherent : ({ p with engine, journal }.take (Layout.move done a.pos) a merges).Coherent) :
    Progress p₀ (done ++ [a])
      ({ p with engine, journal }.take (Layout.move done a.pos) a merges) := by
  have hbefore : ∀ b ∈ done, b.pos.Before a.pos := fun b hb => Sheet.OpenedBy.before hsplit hb
  constructor
  case opened => exact ⟨rest, by rw [hsplit, List.map_append, List.append_assoc]; rfl⟩
  case answered => exact h.answered.concat heval
  case canvas =>
    rw [Canvas.fill_concat, ← h.canvas]
    rfl
  case area =>
    rw [Area.grow_concat, ← h.area]
    rfl
  case written =>
    change p.written.map _ ++ _ = _
    rw [h.written, List.map_map, List.map_append, List.map_singleton, Layout.block_last hbefore]
    refine congrArg (· ++ _) (List.map_congr_left ?_)
    intro b hb
    exact (Layout.block_concat hb (hbefore b hb)).symm
  case stats =>
    rw [RenderStats.count_append, ← h.stats]
    rfl
  case coherent => exact hcoherent

end Progress

end Pass

end SheetTemplate
