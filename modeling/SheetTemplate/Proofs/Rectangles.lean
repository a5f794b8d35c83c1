import SheetTemplate.Proofs.PassRun
import SheetTemplate.Proofs.SheetInsertion

namespace SheetTemplate

namespace Area

variable {a b : Area} {pos x : CellRef} {g : Grid}

theorem Disjoint.symm (h : a.Disjoint b) : b.Disjoint a := fun c hb ha => h c ha hb

/-- An interval that reaches into the lines inserted behind `i` holds `i`. -/
theorem between_of_shiftEnds {i n low high x : Nat} (hi : i ≤ x) (hx : x ≤ i + n)
    (hlow : (shiftEnds (i + 1) n low high).1 ≤ x) (hhigh : x ≤ (shiftEnds (i + 1) n low high).2) :
    low ≤ i ∧ i ≤ high := by
  unfold shiftEnds at hlow hhigh
  by_cases hmoved : i + 1 ≤ low
  · rw [if_pos hmoved] at hlow
    dsimp only at hlow
    omega
  · rw [if_neg hmoved] at hlow hhigh
    split at hhigh <;> dsimp only at hhigh <;> omega

theorem mem_of_mem_giveWay (hx : x ∈ sized pos g.width g.height) (hxa : x ∈ a.giveWay pos g) :
    pos ∈ a := by
  rw [sized_grid] at hx
  obtain ⟨hleft, hright, htop, hbottom⟩ := mem_def.1 hx
  obtain ⟨hleft', hright', htop', hbottom'⟩ := mem_def.1 hxa
  obtain ⟨hlow, hhigh⟩ := between_of_shiftEnds hleft hright hleft' hright'
  obtain ⟨hlow', hhigh'⟩ := between_of_shiftEnds htop hbottom htop' hbottom'
  exact ⟨hlow, hhigh, hlow', hhigh'⟩

theorem disjoint_giveWay (h : pos ∉ a) :
    (sized pos g.width g.height).Disjoint (a.giveWay pos g) :=
  fun _ hx hxa => h (mem_of_mem_giveWay hx hxa)

end Area

theorem covered_eq_false_iff {areas : List Area} {c : CellRef} :
    covered areas c = false ↔ ∀ a ∈ areas, c ∉ a := by
  simp [covered]

theorem covered_shift (areas : List Area) (axis : Axis) (start count : Nat) (c : CellRef) :
    covered (areas.map (·.shift axis start count)) (c.shift axis start count) =
      covered areas c := by
  simp only [covered, List.any_map, Function.comp_def, Area.shift_mem_shift_iff]

namespace Pass

variable {κ σ : Type} [MergeLookup κ]

/-- The rectangles are apart from each other and from the merged regions. -/
structure Apart (p : Pass κ σ) : Prop where
  written : p.written.Pairwise Area.Disjoint
  merges : ∀ w ∈ p.written, ∀ m ∈ p.sheet.merges, w.Disjoint m

/-- A grid may be written at `pos`: of the cells that it takes only that one is occupied. -/
structure Vacant (p : Pass κ σ) (pos : CellRef) (g : Grid) : Prop where
  written : ∀ w ∈ p.written, (Area.sized pos g.width g.height).Disjoint w
  merges : ∀ m ∈ p.sheet.merges, (Area.sized pos g.width g.height).Disjoint m
  cells : ∀ x ∈ Area.sized pos g.width g.height, x ∈ p.sheet.cells ↔ x = pos

variable {p₀ p p' : Pass κ σ} {c₀ pos c c' : CellRef} {g : Grid} {s : Slot}

theorem Apart.insert (h : p.Apart) (axis : Axis) (start count : Nat) :
    (p.insert axis start count).Apart := by
  constructor
  · refine List.pairwise_map.2 (h.written.imp ?_)
    exact fun hab => hab.shift axis start count
  · intro w' hw' m' hm'
    obtain ⟨w, hw, rfl⟩ := List.mem_map.1 hw'
    obtain ⟨m, hm, rfl⟩ := List.mem_map.1 (p.sheet.merges_insert axis start count ▸ hm')
    exact (h.merges w hw m hm).shift axis start count

theorem Apart.insertRows (h : p.Apart) (pos : CellRef) (g : Grid) : (p.insertRows pos g).Apart := by
  unfold Pass.insertRows
  split
  · exact ⟨(h.insert ..).written, (h.insert ..).merges⟩
  · exact h

theorem Apart.insertCols (h : p.Apart) (pos : CellRef) (g : Grid) : (p.insertCols pos g).Apart := by
  unfold Pass.insertCols
  split
  · exact ⟨(h.insert ..).written, (h.insert ..).merges⟩
  · exact h

omit [MergeLookup κ] in
theorem free_of_slotAt (h : p.slotAt c = some s) :
    (∀ w ∈ p.written, c ∉ w) ∧ (∀ m ∈ p.sheet.merges, c ∉ m) ∧ c ∈ p.sheet.cells := by
  unfold slotAt at h
  split at h
  case isTrue => cases h
  case isFalse hfree =>
    obtain ⟨-, htext, -, hcovered⟩ := Slot.ofCell?_eq_some_iff.1 h
    refine ⟨covered_eq_false_iff.1 (Bool.eq_false_iff.2 hfree), covered_eq_false_iff.1 hcovered, ?_⟩
    by_contra hnone
    rw [Sheet.cellAt, Std.TreeMap.getElem?_eq_none hnone] at htext
    cases htext

variable [LawfulMergeLookup κ]

/-- The lines that are inserted for a grid make room for it. -/
theorem vacant_makeRoom (h : p.Coherent) (hs : p.slotAt pos = some s) (g : Grid) :
    ((p.insertRows pos g).insertCols pos g).Vacant pos g := by
  obtain ⟨hwritten, hmerges, hstored⟩ := free_of_slotAt hs
  obtain ⟨merges, -, hroom⟩ := makeRoom_spec h pos g
  rw [hroom]
  constructor
  case written =>
    intro w' hw'
    obtain ⟨w, hw, rfl⟩ := List.mem_map.1 hw'
    exact Area.disjoint_giveWay (hwritten w hw)
  case merges =>
    intro m' hm'
    obtain ⟨m, hm, rfl⟩ := List.mem_map.1 (p.sheet.merges_makeRoom pos g ▸ hm')
    exact Area.disjoint_giveWay (hmerges m hm)
  case cells =>
    intro x hx
    constructor
    · intro hmem
      obtain ⟨i, hi, j, hj, rfl⟩ := Area.mem_sized_iff.1 hx
      by_contra hne
      refine p.sheet.offset_not_mem_makeRoom pos g hi hj ?_ hmem
      rintro ⟨rfl, rfl⟩
      exact hne rfl
    · rintro rfl
      exact (p.sheet.mem_makeRoom x g).2 ⟨x, hstored, Layout.giveWay_self x g⟩

omit [LawfulMergeLookup κ] in
/-- Whether or not the style of the formula is known, a grid in free cells keeps things apart. -/
theorem Apart.apply (format : FormatSpec)
    (h : ((p.insertRows pos g).insertCols pos g).Apart)
    (hvacant : ((p.insertRows pos g).insertCols pos g).Vacant pos g) :
    (p.apply pos format g).2.Apart := by
  unfold Pass.apply
  generalize (p.insertRows pos g).insertCols pos g = room at h hvacant
  have hmerges := (room.sheet.frame_writeGrid pos format g).2
  dsimp only
  split
  case h_1 =>
    refine ⟨h.written, ?_⟩
    rw [hmerges]
    exact h.merges
  case h_2 =>
    constructor
    · refine List.pairwise_append.2 ⟨h.written, List.pairwise_singleton _ _, ?_⟩
      intro w hw target htarget
      obtain rfl := List.mem_singleton.1 htarget
      exact (hvacant.written w hw).symm
    · intro w hw m hm
      rw [(Sheet.frame_setStyle ..).2, hmerges] at hm
      rcases List.mem_append.1 hw with hw | hw
      · exact h.merges w hw m hm
      · obtain rfl := List.mem_singleton.1 hw
        exact hvacant.merges m hm

theorem Apart.idle (h : p.Apart) (hidle : p.Idle p') : p'.Apart := by
  rw [hidle.2]
  exact ⟨h.written, h.merges⟩

theorem slotAt_of_find {f : Found} (hp : p.Coherent) (hfind : p.find c = (some (pos, f), p')) :
    p.Idle p' ∧ ∃ s, p'.slotAt pos = some s ∧ s.found = f := by
  obtain ⟨p'', hidle, hspec⟩ := find_spec hp c
  obtain ⟨hhit, rfl⟩ := Prod.mk.inj (hspec.symm.trans hfind)
  obtain ⟨s, hfirst, hs⟩ := Option.map_eq_some_iff.1 hhit
  obtain ⟨rfl, rfl⟩ := Prod.mk.inj hs
  obtain ⟨x, -, hx⟩ := List.exists_of_findSome?_eq_some hfirst
  obtain rfl := pos_of_slotAt hx
  exact ⟨hidle, s, (hidle.slotAt_eq s.pos).trans hx, rfl⟩

variable [Evaluator σ]

theorem Apart.answer (h : p.Apart) (hp : p.Coherent) (hs : p.slotAt pos = some s) :
    (p.answer pos s.found).2.Apart := by
  rcases heval : Evaluator.evaluate s.found.formula p.engine with ⟨result, engine⟩
  cases result with
  | error e =>
    obtain ⟨journal, hanswer⟩ := answer_of_error pos heval
    rw [hanswer]
    exact ⟨h.written, h.merges⟩
  | ok g =>
    obtain ⟨journal, hanswer⟩ := answer_of_ok pos heval
    have happart : ({ p with engine, journal } : Pass κ σ).Apart := ⟨h.written, h.merges⟩
    rw [hanswer]
    exact .apply _ ((happart.insertRows pos g).insertCols pos g)
      (vacant_makeRoom (p := { p with engine, journal }) hp hs g)

theorem Step.apart (hstep : p.Step c p' c') (h : p.Apart) (hp : p.Coherent) : p'.Apart := by
  obtain @⟨q, _, pos, f, found, answered⟩ := hstep
  obtain ⟨hidle, s, hs, rfl⟩ := slotAt_of_find hp found
  have hanswer := (h.idle hidle).answer hidle.1 hs
  rwa [answered] at hanswer

theorem Reaches.apart (hreach : Reaches p₀ c₀ p c) (hp : ∀ p c, Reaches p₀ c₀ p c → p.Coherent)
    (h : p₀.Apart) : p.Apart := by
  induction hreach with
  | start => exact h
  | step reach hstep ih => exact hstep.apart ih (hp _ _ reach)

end Pass

namespace Pass

variable {κ σ : Type} [MergeLookup κ]

/-- Wherever `f` has carried the items of the answers, they lie in rectangles. -/
def Covers (p : Pass κ σ) (done : List Answer) (f : CellRef → CellRef) : Prop :=
  ∀ a ∈ done, ∀ r < a.grid.height, ∀ c < a.grid.width,
    covered p.written (f (Layout.item done a r c)) = true

/-- Between two formulas the rectangles, one for each answer, are apart and hold all that the pass
has written. What is stored elsewhere is what the template stores. -/
structure Tidy (p : Pass κ σ) (template : Sheet) (done : List Answer) : Prop where
  written : p.written = done.map (Layout.block done)
  apart : p.Apart
  items : ∀ a ∈ done, ∀ r < a.grid.height, ∀ c < a.grid.width,
    ∃ style, p.sheet.cells[Layout.item done a r c]? = some ⟨a.valueAt r c, style⟩
  covers : p.Covers done id
  rest : ∀ x ∈ p.sheet.cells, covered p.written x = false →
    ∃ c cell, template.cells[c]? = some cell ∧ (∀ a ∈ done, a.pos ≠ c) ∧
      Layout.move done c = x ∧ p.sheet.cells[x]? = some (cell.follow done)

/-- While a grid is on its way to `pos` everything stays apart, and the place is free for it. -/
structure TakesIn (p : Pass κ σ) (done : List Answer) (pos : CellRef) (g : Grid) : Prop where
  rows : (p.insertRows pos g).Apart
  rows_covers : (p.insertRows pos g).Covers done (·.shift .row (pos.row + 1) (g.height - 1))
  room : ((p.insertRows pos g).insertCols pos g).Apart
  room_covers : ((p.insertRows pos g).insertCols pos g).Covers done (·.giveWay pos g)
  vacant : ((p.insertRows pos g).insertCols pos g).Vacant pos g

variable {p₀ p : Pass κ σ} {done : List Answer} {pos : CellRef} {s : Slot}

theorem Covers.insertRows (h : p.Covers done id) (pos : CellRef) (g : Grid) :
    (p.insertRows pos g).Covers done (·.shift .row (pos.row + 1) (g.height - 1)) := by
  intro a ha r hr c hc
  have hcovered := h a ha r hr c hc
  dsimp only [id] at hcovered
  unfold Pass.insertRows
  split
  · exact (covered_shift ..).trans hcovered
  · have hzero : g.height - 1 = 0 := by omega
    dsimp only
    rwa [hzero, CellRef.shift_zero]

variable [LawfulMergeLookup κ]

theorem Progress.tidy [Evaluator σ] (h : Progress p₀ done p) (hapart : p.Apart) :
    p.Tidy p₀.sheet done := by
  constructor
  case written => exact h.written
  case apart => exact hapart
  case items => exact h.laid.items
  case covers =>
    intro a ha r hr c hc
    exact h.covered_written.2 ⟨a, ha, Layout.item_mem_block hr hc⟩
  case rest =>
    intro x hx hfree
    rcases h.laid.stored x hx with ⟨c, hc, hnew, rfl⟩ | ⟨a, ha, r, hr, c, hc, rfl⟩
    · obtain ⟨cell, hcell⟩ := Sheet.mem_cells_iff.1 hc
      exact ⟨c, cell, hcell, hnew, rfl, h.laid.moved c cell hcell hnew⟩
    · rw [h.covered_written.2 ⟨a, ha, Layout.item_mem_block hr hc⟩] at hfree
      cases hfree

theorem Apart.takesIn (h : p.Apart) (hp : p.Coherent) (hs : p.slotAt pos = some s)
    (hcovers : p.Covers done id) (g : Grid) : p.TakesIn done pos g := by
  constructor
  case rows => exact h.insertRows pos g
  case rows_covers => exact hcovers.insertRows pos g
  case room => exact (h.insertRows pos g).insertCols pos g
  case room_covers =>
    obtain ⟨merges, -, hroom⟩ := makeRoom_spec hp pos g
    rw [hroom]
    intro a ha r hr c hc
    exact (covered_giveWay ..).trans (hcovers a ha r hr c hc)
  case vacant => exact vacant_makeRoom hp hs g

end Pass

/-- In a pass the rectangles stay apart from each other and from the merged regions, and they hold
all that the pass has written: between the formulas, while room is made for a grid, and when it is
written, which is to free cells only. -/
theorem render_rectangles {σ : Type} [Evaluator σ] {r : Rendering σ} {s : Sheet} {area : Area}
    {p : Pass MergeCache σ} {c : CellRef} (harea : s.extent? = some area)
    (hreach : Pass.Reaches (r.startPass MergeCache s area) area.topLeft p c) :
    ∃ done, s.OpenedBy done ∧ Answered r.engine done p.engine ∧ p.Tidy s done ∧
      ∀ pos f p', p.find c = (some (pos, f), p') → p'.Tidy s done ∧ (p'.answer pos f).2.Apart ∧
        ∀ g engine journal, Evaluator.evaluate f.formula p'.engine = (.ok g, engine) →
          ({ p' with engine, journal } : Pass MergeCache σ).TakesIn done pos g := by
  have hstart := Rendering.progress_startPass MergeCache r s area
  have hprogress {p : Pass MergeCache σ} {c : CellRef}
      (hreach : Pass.Reaches (r.startPass MergeCache s area) area.topLeft p c) :=
    hreach.progress harea hstart (Pass.clear_start harea)
  have hapart : p.Apart := by
    apply hreach.apart
    · intro q d hq
      obtain ⟨done, h, -⟩ := hprogress hq
      exact h.coherent
    · exact ⟨List.Pairwise.nil, by rintro w ⟨⟩⟩
  obtain ⟨done, h, -⟩ := hprogress hreach
  refine ⟨done, h.opened, h.answered, h.tidy hapart, ?_⟩
  intro pos f p' hfind
  obtain ⟨hidle, slot, hslot, rfl⟩ := Pass.slotAt_of_find h.coherent hfind
  have hfound := hapart.idle hidle
  have htidy := (h.idle hidle).tidy hfound
  refine ⟨htidy, hfound.answer hidle.1 hslot, ?_⟩
  intro g engine journal _
  exact Pass.Apart.takesIn (p := { p' with engine, journal }) ⟨hfound.written, hfound.merges⟩
    hidle.1 hslot htidy.covers g

def mergedSheet : Sheet := { sampleSheet with merges := [⟨2, 0, 2, 1⟩] }

def mergedPass : Pass MergeCache Prepared :=
  ({ book := sampleBook, engine := ⟨[sampleGrid, sampleGrid]⟩ } : Rendering Prepared).startPass
    MergeCache mergedSheet ⟨0, 0, 2, 1⟩

theorem render_rectangles_sample :
    ∃ p c pos f p', Pass.Reaches mergedPass ⟨0, 0⟩ p c ∧ p.written = [⟨0, 0, 1, 1⟩] ∧
      p.sheet.merges = [⟨3, 0, 3, 2⟩] ∧ p.find c = (some (pos, f), p') ∧ pos = ⟨0, 2⟩ ∧
      Evaluator.evaluate f.formula p'.engine = (.ok sampleGrid, ⟨[]⟩) ∧
      ∃ done, p.Tidy mergedSheet done ∧ (p'.answer pos f).2.Apart ∧
        ({ p' with engine := ⟨[]⟩ } : Pass MergeCache Prepared).TakesIn done pos sampleGrid := by
  have hsecond : ∃ p c pos f p', Pass.Reaches mergedPass ⟨0, 0⟩ p c ∧ p.written = [⟨0, 0, 1, 1⟩] ∧
      p.sheet.merges = [⟨3, 0, 3, 2⟩] ∧ p.find c = (some (pos, f), p') ∧ pos = ⟨0, 2⟩ ∧
      Evaluator.evaluate f.formula p'.engine = (.ok sampleGrid, ⟨[]⟩) :=
    ⟨_, _, _, _, _, .step .start (.answer (by rfl) (by rfl)), by rfl, by rfl, by rfl, by rfl,
      by rfl⟩
  obtain ⟨p, c, pos, f, p', hreach, hwritten, hmerges, hfind, hpos, heval⟩ := hsecond
  have harea : mergedSheet.extent? = some ⟨0, 0, 2, 1⟩ := by decide
  obtain ⟨done, -, -, htidy, hnext⟩ := render_rectangles harea hreach
  obtain ⟨-, hapart, htakesIn⟩ := hnext pos f p' hfind
  exact ⟨p, c, pos, f, p', hreach, hwritten, hmerges, hfind, hpos, heval, done, htidy, hapart,
    htakesIn sampleGrid ⟨[]⟩ p'.journal heval⟩

end SheetTemplate
