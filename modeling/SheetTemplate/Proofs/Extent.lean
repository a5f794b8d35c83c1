import SheetTemplate.Proofs.Filling

namespace SheetTemplate

namespace Area

def low : Axis → Area → Nat
  | .row, a => a.top
  | .column, a => a.left

def high : Axis → Area → Nat
  | .row, a => a.bottom
  | .column, a => a.right

theorem ext_ends {a b : Area} (hlow : ∀ axis, a.low axis = b.low axis)
    (hhigh : ∀ axis, a.high axis = b.high axis) : a = b := by
  obtain ⟨left, top, right, bottom⟩ := a
  obtain ⟨left', top', right', bottom'⟩ := b
  exact (mk.injEq ..).symm ▸ ⟨hlow .column, hlow .row, hhigh .column, hhigh .row⟩

structure Spans (a : Area) (l : List Area) : Prop where
  low_le : ∀ axis, ∀ b ∈ l, a.low axis ≤ b.low axis
  low_eq : ∀ axis, ∃ b ∈ l, b.low axis = a.low axis
  le_high : ∀ axis, ∀ b ∈ l, b.high axis ≤ a.high axis
  high_eq : ∀ axis, ∃ b ∈ l, b.high axis = a.high axis

theorem Spans.unique {a b : Area} {l : List Area} (ha : a.Spans l) (hb : b.Spans l) : a = b := by
  apply ext_ends
  · intro axis
    obtain ⟨c, hc, hca⟩ := ha.low_eq axis
    obtain ⟨d, hd, hdb⟩ := hb.low_eq axis
    have := ha.low_le axis d hd
    have := hb.low_le axis c hc
    omega
  · intro axis
    obtain ⟨c, hc, hca⟩ := ha.high_eq axis
    obtain ⟨d, hd, hdb⟩ := hb.high_eq axis
    have := ha.le_high axis d hd
    have := hb.le_high axis c hc
    omega

theorem low_hull (axis : Axis) (a b : Area) :
    (a.hull b).low axis = min (a.low axis) (b.low axis) := by
  cases axis <;> rfl

theorem high_hull (axis : Axis) (a b : Area) :
    (a.hull b).high axis = max (a.high axis) (b.high axis) := by
  cases axis <;> rfl

theorem Spans.of_hull {a b c : Area} {l : List Area} (h : c.Spans (a.hull b :: l)) :
    c.Spans (a :: b :: l) := by
  constructor
  · intro axis
    obtain ⟨hhull, hl⟩ := List.forall_mem_cons.1 (h.low_le axis)
    rw [low_hull] at hhull
    exact List.forall_mem_cons.2 ⟨by omega, List.forall_mem_cons.2 ⟨by omega, hl⟩⟩
  · intro axis
    obtain ⟨d, hd, heq⟩ := h.low_eq axis
    rcases List.mem_cons.1 hd with rfl | hd
    · rw [low_hull] at heq
      rcases Nat.le_total (a.low axis) (b.low axis) with hab | hab
      · exact ⟨a, by simp, by omega⟩
      · exact ⟨b, by simp, by omega⟩
    · exact ⟨d, by simp [hd], heq⟩
  · intro axis
    obtain ⟨hhull, hl⟩ := List.forall_mem_cons.1 (h.le_high axis)
    rw [high_hull] at hhull
    exact List.forall_mem_cons.2 ⟨by omega, List.forall_mem_cons.2 ⟨by omega, hl⟩⟩
  · intro axis
    obtain ⟨d, hd, heq⟩ := h.high_eq axis
    rcases List.mem_cons.1 hd with rfl | hd
    · rw [high_hull] at heq
      rcases Nat.le_total (a.high axis) (b.high axis) with hab | hab
      · exact ⟨b, by simp, by omega⟩
      · exact ⟨a, by simp, by omega⟩
    · exact ⟨d, by simp [hd], heq⟩

theorem spans_foldl_hull (a : Area) (l : List Area) : (l.foldl hull a).Spans (a :: l) := by
  induction l generalizing a with
  | nil => constructor <;> simp
  | cons b l ih => exact (ih (a.hull b)).of_hull

end Area

namespace Sheet

def pieces (s : Sheet) : List Area :=
  match s.cells.keys.map .ofCell ++ s.merges with
  | [] => []
  | a :: rest => a.upright :: rest

theorem pieces_of_mem {s : Sheet} {pos : CellRef} (h : pos ∈ s.cells) :
    s.pieces = s.cells.keys.map .ofCell ++ s.merges := by
  rw [← Std.TreeMap.mem_keys] at h
  unfold pieces
  cases hkeys : s.cells.keys with
  | nil =>
    rw [hkeys] at h
    cases h
  | cons c rest =>
    have hupright : (Area.ofCell c).upright = .ofCell c := by
      simp [Area.upright, Area.ofCell, Area.ofCorners, Area.ofBounds]
    rw [List.map_cons, List.cons_append]
    dsimp only
    rw [hupright]

theorem mem_pieces {s : Sheet} {pos : CellRef} {b : Area} (h : pos ∈ s.cells) :
    b ∈ s.pieces ↔ (∃ c ∈ s.cells, .ofCell c = b) ∨ b ∈ s.merges := by
  simp only [pieces_of_mem h, List.mem_append, List.mem_map, Std.TreeMap.mem_keys]

theorem extent?_eq (s : Sheet) : s.extent? =
    match s.pieces with
    | [] => none
    | b :: rest => some (rest.foldl .hull b) := by
  unfold extent? pieces
  cases s.cells.keys.map .ofCell ++ s.merges <;> rfl

theorem extent?_eq_some_iff {s : Sheet} {a : Area} : s.extent? = some a ↔ a.Spans s.pieces := by
  rw [extent?_eq]
  cases s.pieces with
  | nil =>
    constructor
    · intro h
      cases h
    · intro h
      obtain ⟨b, hb, -⟩ := h.low_eq .row
      cases hb
  | cons b rest =>
    dsimp only
    rw [Option.some.injEq]
    constructor
    · rintro rfl
      exact Area.spans_foldl_hull b rest
    · exact (Area.spans_foldl_hull b rest).unique

end Sheet

theorem Area.ofCell_eq (c : CellRef) : ofCell c = ⟨c.col, c.row, c.col, c.row⟩ := by
  simp [ofCell, ofCorners, ofBounds]

theorem Area.ofCell_giveWay (c pos : CellRef) (g : Grid) :
    ofCell (c.giveWay pos g) = (ofCell c).giveWay pos g := by
  rw [ofCell_eq, ofCell_eq, giveWay_corners _ _ (Nat.le_refl _) (Nat.le_refl _)]

@[simp] theorem Area.low_ofCell (axis : Axis) (c : CellRef) :
    (ofCell c).low axis = axis.coordinate c := by
  rw [ofCell_eq]
  cases axis <;> rfl

@[simp] theorem Area.high_ofCell (axis : Axis) (c : CellRef) :
    (ofCell c).high axis = axis.coordinate c := by
  rw [ofCell_eq]
  cases axis <;> rfl

theorem Area.low_giveWay (axis : Axis) (a : Area) (pos : CellRef) (g : Grid) :
    (a.giveWay pos g).low axis =
      (shiftEnds (axis.coordinate pos + 1) (g.size axis - 1) (a.low axis) (a.high axis)).1 := by
  cases axis <;> rfl

theorem Area.high_giveWay (axis : Axis) (a : Area) (pos : CellRef) (g : Grid) :
    (a.giveWay pos g).high axis =
      (shiftEnds (axis.coordinate pos + 1) (g.size axis - 1) (a.low axis) (a.high axis)).2 := by
  cases axis <;> rfl

section Ends

variable {start count low high : Nat}

theorem Area.le_shiftEnds_fst : low ≤ (shiftEnds start count low high).1 := by
  unfold shiftEnds
  split <;> (try split) <;> dsimp only <;> omega

theorem Area.shiftEnds_fst_of_lt (h : low < start) : (shiftEnds start count low high).1 = low := by
  unfold shiftEnds
  rw [if_neg (by omega)]
  split <;> rfl

theorem Area.le_shiftEnds_snd : high ≤ (shiftEnds start count low high).2 := by
  unfold shiftEnds
  split <;> (try split) <;> dsimp only <;> omega

theorem Area.shiftEnds_snd_le : (shiftEnds start count low high).2 ≤ high + count := by
  unfold shiftEnds
  split <;> (try split) <;> dsimp only <;> omega

theorem Area.shiftEnds_snd_of_le (h : start ≤ high) :
    (shiftEnds start count low high).2 = high + count := by
  unfold shiftEnds
  rw [if_pos h]
  split <;> rfl

end Ends

theorem Area.coordinate_of_mem {a : Area} {c : CellRef} (h : c ∈ a) (axis : Axis) :
    a.low axis ≤ axis.coordinate c ∧ axis.coordinate c ≤ a.high axis := by
  obtain ⟨hleft, hright, htop, hbottom⟩ := mem_def.1 h
  cases axis with
  | row => exact ⟨htop, hbottom⟩
  | column => exact ⟨hleft, hright⟩

theorem Area.coordinate_of_mem_sized {pos c : CellRef} {g : Grid}
    (h : c ∈ sized pos g.width g.height) (axis : Axis) :
    axis.coordinate pos ≤ axis.coordinate c ∧
      axis.coordinate c ≤ axis.coordinate pos + (g.size axis - 1) := by
  rw [sized_grid] at h
  have hends := coordinate_of_mem h axis
  cases axis with
  | row => exact hends
  | column => exact hends

namespace Sheet

variable {s : Sheet} {a b : Area} {pos : CellRef} {format : FormatSpec} {g : Grid} {id : Nat}

theorem mem_pieces_put (hpos : pos ∈ s.cells) :
    b ∈ ((s.makeRoom pos g).put pos format g id).pieces ↔
      (∃ d ∈ s.pieces, d.giveWay pos g = b) ∨
        ∃ c ∈ Area.sized pos g.width g.height, .ofCell c = b := by
  have hput : pos.giveWay pos g ∈ ((s.makeRoom pos g).put pos format g id).cells :=
    mem_put.2 (.inr ((s.mem_makeRoom ..).2 ⟨pos, hpos, rfl⟩))
  rw [mem_pieces hput, frame_put.2, merges_makeRoom, List.mem_map]
  constructor
  · rintro (⟨c, hc, rfl⟩ | ⟨m, hm, rfl⟩)
    · rcases mem_put.1 hc with hmem | hmoved
      · exact .inr ⟨c, hmem, rfl⟩
      · obtain ⟨d, hd, rfl⟩ := (s.mem_makeRoom ..).1 hmoved
        refine .inl ⟨.ofCell d, (mem_pieces hpos).2 (.inl ⟨d, hd, rfl⟩), ?_⟩
        exact (Area.ofCell_giveWay ..).symm
    · exact .inl ⟨m, (mem_pieces hpos).2 (.inr hm), rfl⟩
  · rintro (⟨d, hd, rfl⟩ | ⟨c, hc, rfl⟩)
    · rcases (mem_pieces hpos).1 hd with ⟨c, hc, rfl⟩ | hm
      · have hmoved := (s.mem_makeRoom pos g).2 ⟨c, hc, rfl⟩
        exact .inl ⟨c.giveWay pos g, mem_put.2 (.inr hmoved), Area.ofCell_giveWay ..⟩
      · exact .inr ⟨d, hm, rfl⟩
    · exact .inl ⟨c, mem_put.2 (.inl hc), rfl⟩

theorem mem_of_extent? (h : s.extent? = some a) (hpos : pos ∈ s.cells) : pos ∈ a := by
  rw [extent?_eq_some_iff] at h
  have hcell : .ofCell pos ∈ s.pieces := (mem_pieces hpos).2 (.inl ⟨pos, hpos, rfl⟩)
  have hlow (axis : Axis) : a.low axis ≤ axis.coordinate pos := by
    simpa using h.low_le axis _ hcell
  have hhigh (axis : Axis) : axis.coordinate pos ≤ a.high axis := by
    simpa using h.le_high axis _ hcell
  exact Area.mem_def.2 ⟨hlow .column, hhigh .column, hlow .row, hhigh .row⟩

/-- The extent grows at its upper ends by what the grid needs more than one line. -/
theorem extent?_put (h : s.extent? = some a) (hpos : pos ∈ s.cells) :
    ((s.makeRoom pos g).put pos format g id).extent? =
      some { a with right := a.right + (g.width - 1), bottom := a.bottom + (g.height - 1) } := by
  have hends (axis : Axis) := Area.coordinate_of_mem (mem_of_extent? h hpos) axis
  rw [extent?_eq_some_iff] at h ⊢
  have hlow (axis : Axis) :
      ({ a with right := a.right + (g.width - 1), bottom := a.bottom + (g.height - 1) } :
        Area).low axis = a.low axis := by
    cases axis <;> rfl
  have hhigh (axis : Axis) :
      ({ a with right := a.right + (g.width - 1), bottom := a.bottom + (g.height - 1) } :
        Area).high axis = a.high axis + (g.size axis - 1) := by
    cases axis <;> rfl
  constructor
  case low_le =>
    intro axis b hb
    rw [hlow]
    rcases (mem_pieces_put hpos).1 hb with ⟨d, hd, rfl⟩ | ⟨c, hc, rfl⟩
    · rw [Area.low_giveWay]
      exact Nat.le_trans (h.low_le axis d hd) Area.le_shiftEnds_fst
    · rw [Area.low_ofCell]
      exact Nat.le_trans (hends axis).1 (Area.coordinate_of_mem_sized hc axis).1
  case low_eq =>
    intro axis
    obtain ⟨d, hd, heq⟩ := h.low_eq axis
    refine ⟨d.giveWay pos g, (mem_pieces_put hpos).2 (.inl ⟨d, hd, rfl⟩), ?_⟩
    have hbefore := (hends axis).1
    rw [hlow, Area.low_giveWay, Area.shiftEnds_fst_of_lt (by omega), heq]
  case le_high =>
    intro axis b hb
    rw [hhigh]
    rcases (mem_pieces_put hpos).1 hb with ⟨d, hd, rfl⟩ | ⟨c, hc, rfl⟩
    · rw [Area.high_giveWay]
      exact Nat.le_trans Area.shiftEnds_snd_le (Nat.add_le_add_right (h.le_high axis d hd) _)
    · rw [Area.high_ofCell]
      exact Nat.le_trans (Area.coordinate_of_mem_sized hc axis).2
        (Nat.add_le_add_right (hends axis).2 _)
  case high_eq =>
    intro axis
    rw [hhigh]
    obtain ⟨d, hd, heq⟩ := h.high_eq axis
    by_cases hmoved : axis.coordinate pos + 1 ≤ d.high axis
    · refine ⟨d.giveWay pos g, (mem_pieces_put hpos).2 (.inl ⟨d, hd, rfl⟩), ?_⟩
      rw [Area.high_giveWay, Area.shiftEnds_snd_of_le hmoved, heq]
    · -- The formula stands in the last line, and the grid ends where the new last line is.
      have hhighest : axis.coordinate pos = a.high axis := by
        have := (hends axis).2
        omega
      refine ⟨.ofCell (pos.offset (g.width - 1) (g.height - 1)),
        (mem_pieces_put hpos).2 (.inr ⟨_, ?_, rfl⟩), ?_⟩
      · have hheight := g.height_pos
        have hwidth := g.width_pos
        exact Area.mem_sized_iff.2 ⟨_, by omega, _, by omega, rfl⟩
      · rw [Area.high_ofCell, ← hhighest]
        cases axis <;> rfl

end Sheet

def Area.grow (a : Area) (done : List Answer) : Area :=
  { a with
    right := a.right + Layout.total .column done
    bottom := a.bottom + Layout.total .row done }

theorem Area.grow_concat (a : Area) (done : List Answer) (b : Answer) :
    a.grow (done ++ [b]) =
      { a.grow done with
        right := (a.grow done).right + (b.grid.width - 1)
        bottom := (a.grow done).bottom + (b.grid.height - 1) } := by
  simp only [grow, Layout.total_concat, Nat.add_assoc]
  rfl

theorem Canvas.extent?_fill (t : Canvas) {a : Area} {done : List Answer}
    (h : t.sheet.OpenedBy done) (ha : t.sheet.extent? = some a) :
    (t.fill done).sheet.extent? = some (a.grow done) := by
  induction done using List.reverseRecOn with
  | nil => exact ha
  | append_singleton done b ih =>
    obtain ⟨cell, hcell, htext, -⟩ :=
      Sheet.mem_slots.1 (h.mem_slots (a := b) (List.mem_append_right _ List.mem_cons_self))
    have hpending := (laid_fill t h.of_concat).pending hcell htext fun c hc => (h.before_last hc).ne
    rw [fill_concat, Area.grow_concat]
    exact Sheet.extent?_put (ih h.of_concat) (Sheet.mem_cells_iff.2 ⟨cell, hpending⟩)

end SheetTemplate
