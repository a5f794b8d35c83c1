import SheetTemplate.Proofs.Shaping

namespace SheetTemplate

namespace Grid

variable {g g' : Grid} {kind : FormatKind} {rows : List (List Scalar)} {items row : List Scalar}
  {r c width : Nat}

theorem ext_get? (hheight : g.height = g'.height) (hwidth : g.width = g'.width)
    (h : ∀ r < g.height, ∀ c < g.width, g.get? r c = g'.get? r c) : g = g' := by
  have hrows : g.rows = g'.rows := by
    refine List.ext_getElem hheight fun r hr hr' => ?_
    have hlen : g.rows[r].length = g.width := g.length_row _ (List.getElem_mem hr)
    have hlen' : g'.rows[r].length = g'.width := g'.length_row _ (List.getElem_mem hr')
    refine List.ext_getElem? fun c => ?_
    by_cases hc : c < g.width
    · have hcell := h r hr c hc
      rwa [get?, get?, List.getElem?_eq_getElem hr, List.getElem?_eq_getElem hr', Option.bind_some,
        Option.bind_some] at hcell
    · rw [List.getElem?_eq_none (by omega), List.getElem?_eq_none (by omega)]
  cases g
  cases g'
  cases hwidth
  cases hrows
  rfl

def transpose (g : Grid) : Grid where
  rows := (List.finRange g.width).map fun c =>
    g.rows.attach.map fun row => row.1.get ⟨c, by rw [g.length_row _ row.2]; exact c.2⟩
  width := g.height
  rows_ne_nil := by
    have hwidth := g.width_pos
    rw [← List.length_pos_iff, List.length_map, List.length_finRange]
    exact hwidth
  width_pos := g.height_pos
  length_row := by
    intro row hrow
    obtain ⟨c, -, rfl⟩ := List.mem_map.1 hrow
    rw [List.length_map, List.length_attach]
    rfl

theorem height_transpose (g : Grid) : g.transpose.height = g.width := by
  rw [height, transpose, List.length_map, List.length_finRange]

theorem width_transpose (g : Grid) : g.transpose.width = g.height := rfl

theorem get?_transpose (g : Grid) (r c : Nat) : g.transpose.get? r c = g.get? c r := by
  by_cases hr : r < g.width
  · rw [get?, get?, transpose, List.getElem?_map, List.getElem?_eq_getElem (by simpa using hr),
      List.getElem_finRange, Option.map_some, Option.bind_some, List.getElem?_map]
    by_cases hc : c < g.rows.length
    · rw [List.getElem?_eq_getElem (by simpa using hc), List.getElem?_eq_getElem hc]
      simp
    · rw [List.getElem?_eq_none (by simpa using hc), List.getElem?_eq_none (by omega)]
      rfl
  · have hnone (g : Grid) (r c : Nat) (h : ¬ (r < g.height ∧ c < g.width)) : g.get? r c = none :=
      Option.eq_none_iff_forall_not_mem.2 fun x hx => h (lt_of_get? hx)
    rw [hnone, hnone]
    · exact fun h => hr h.2
    · rw [height_transpose]
      exact fun h => hr h.1

theorem width_ofRows_single (kind : FormatKind) (row : List Scalar) :
    (ofRows kind [row]).width = max 1 row.length := by
  rw [width_ofRows]
  rfl

/-- A column is a row, transposed. -/
theorem ofRows_column (kind : FormatKind) (items : List Scalar) :
    ofRows kind (items.map fun x => [x]) = (ofRows kind [items]).transpose := by
  have hheight : (ofRows kind (items.map fun x => [x])).height = (ofRows kind [items]).width := by
    rw [height_ofRows, width_ofRows_single, List.length_map]
  have hwidth : (ofRows kind (items.map fun x => [x])).width = 1 := by
    have hlengths : (items.map fun x => [x]).map List.length = List.replicate items.length 1 := by
      rw [List.map_map]
      exact List.map_const'
    rw [width_ofRows, hlengths, List.max?_replicate]
    split <;> rfl
  have hrow : (ofRows kind [items]).height = 1 := by
    rw [height_ofRows]
    rfl
  refine ext_get? (hheight.trans (height_transpose _).symm) ?_ fun r hr c hc => ?_
  · rw [width_transpose, hwidth, hrow]
  · have hr' := hheight ▸ hr
    have hc' := hc
    rw [hwidth, ← hrow] at hc'
    rw [get?_transpose, get?_ofRows hr hc, get?_ofRows hc' hr', List.getElem?_map]
    obtain rfl : c = 0 := by omega
    cases hitem : items[r]? <;> simp [hitem]

/-- The grid has the rows of these grids, one below the other, filled up to the widest of them. -/
structure Stacks (kind : FormatKind) (grids : List Grid) (g : Grid) : Prop where
  width_mem : ∃ h ∈ grids, h.width = g.width
  width_le : ∀ h ∈ grids, h.width ≤ g.width
  rows : g.rows = grids.flatMap fun h => h.rows.map (padRow kind g.width)

theorem padRow_padRow {width' : Nat} (h : width ≤ width') :
    padRow kind width' (padRow kind width row) = padRow kind width' row := by
  unfold padRow
  rw [List.append_assoc, List.replicate_append_replicate, List.length_append, List.length_replicate]
  congr 2
  omega

theorem stacks_ofRows (kind : FormatKind) (hne : rows ≠ []) :
    (ofRows kind rows).Stacks kind (rows.map fun row => ofRows kind [row]) := by
  obtain ⟨greatest, hgreatest⟩ : ∃ n, (rows.map List.length).max? = some n :=
    Option.isSome_iff_exists.1 (by simpa [List.isSome_max?_iff] using hne)
  have hwidth : (ofRows kind rows).width = max 1 greatest := by
    rw [width_ofRows, hgreatest]
    rfl
  obtain ⟨hmem, hle⟩ := List.max?_eq_some_iff.1 hgreatest
  have hle' : ∀ row ∈ rows, row.length ≤ greatest := fun row hrow =>
    hle _ (List.mem_map_of_mem hrow)
  constructor
  · obtain ⟨row, hrow, rfl⟩ := List.mem_map.1 hmem
    refine ⟨_, List.mem_map_of_mem hrow, ?_⟩
    rw [width_ofRows_single, hwidth]
  · intro h hmem
    obtain ⟨row, hrow, rfl⟩ := List.mem_map.1 hmem
    rw [width_ofRows_single, hwidth]
    have := hle' row hrow
    omega
  · have hsome : someRows rows = rows := if_neg (by simpa using hne)
    have hfill : ∀ row ∈ rows, [padRow kind (max 1 greatest) row] =
        (ofRows kind [row]).rows.map (padRow kind (max 1 greatest)) := by
      intro row hrow
      have := hle' row hrow
      rw [rows_ofRows, width_ofRows_single]
      change _ = [padRow kind _ (padRow kind _ row)]
      rw [padRow_padRow (by omega)]
    rw [rows_ofRows, hsome, hwidth, List.flatMap_map, List.map_eq_flatMap, List.flatMap_def,
      List.flatMap_def, List.map_congr_left hfill]

end Grid

open Stateful

theorem mapM_map {m : Type → Type} {ι β γ : Type} [Monad m] [LawfulMonad m] (f : β → γ) (x : ι → m β)
    (l : List ι) : (l.mapM fun i => f <$> x i) = List.map f <$> l.mapM x := by
  induction l with
  | nil => simp
  | cons i l ih => simp [List.mapM_cons, ih]

theorem shape_vertical {m : Type → Type} {α : Type} [Monad m] [LawfulMonad m] [Queryable m α]
    (format : FormatSpec) (v : α) :
    (shape .vertical format v : m Grid) = Grid.transpose <$> shape .horizontal format v := by
  simp only [shape, valueRows, Functor.map_map, Grid.ofRows_column]

theorem shape_horizontal {m : Type → Type} {α : Type} [Monad m] [LawfulMonad m] [Queryable m α]
    (format : FormatSpec) (v : α) :
    (shape .horizontal format v : m Grid) =
      (fun row => Grid.ofRows format.kind [row]) <$> extractVector format.kind v := by
  simp only [shape, valueRows, Functor.map_map]

section Running

variable {m : Type → Type} {σ α β γ : Type} [Monad m] [Stateful m σ]

theorem run_map (f : β → γ) (x : m β) (s : σ) :
    run (f <$> x) s = ((run x s).1.map f, (run x s).2) := by
  rcases hx : run x s with ⟨e | b, s'⟩
  · exact run_map_error hx
  · exact run_map_ok hx

theorem run_map_congr (f : β → γ) {x y : m β} {s s' : σ} (h : run x s = run y s') :
    run (f <$> x) s = run (f <$> y) s' := by
  rw [run_map, run_map, h]

variable [Queryable m α] {kind : FormatKind} {v : α} {s s' : σ} {n k : Nat}

variable (m) in
def NoSequence (v : α) (s : σ) : Prop := run (Queryable.length v : m (Option Nat)) s = (.ok none, s)

variable (m) in
/-- None of the `n` items from index `k` on is a sequence, each asked for when the ones before it
have been read. -/
def Flat (kind : FormatKind) (v : α) : Nat → Nat → σ → Prop
  | 0, _, _ => True
  | n + 1, k, s => ∀ (w : α) (s₁ : σ), run (Queryable.item (m := m) v k) s = (.ok w, s₁) →
      NoSequence m w s₁ ∧ ∀ (x : Scalar) (s₂ : σ),
        run (extractScalar kind w : m Scalar) s₁ = (.ok x, s₂) → Flat kind v n (k + 1) s₂

theorem run_forItems_none (f : α → m β) (h : NoSequence m v s) :
    run (forItems f v) s = run ((· :: []) <$> f v) s :=
  run_bind_ok h

theorem run_forItems_some (f : α → m β)
    (h : run (Queryable.length v : m (Option Nat)) s = (.ok (some n), s')) :
    run (forItems f v) s = run ((List.range n).mapM fun i => Queryable.item v i >>= f) s' :=
  run_bind_ok h

theorem run_shape_noSequence (d : Direction) (format : FormatSpec) (h : NoSequence m v s) :
    run (shape d format v : m Grid) s = run (shape .cell format v : m Grid) s := by
  have hvector : run (extractVector format.kind v : m (List Scalar)) s =
      run ((· :: []) <$> extractScalar format.kind v : m (List Scalar)) s :=
    run_forItems_none _ h
  have htable : run (extractTable format.kind v : m (List (List Scalar))) s =
      run ((· :: []) <$> extractVector format.kind v : m (List (List Scalar))) s :=
    run_forItems_none _ h
  cases d with
  | cell => rfl
  | horizontal =>
    refine run_map_congr _ ((run_map_congr _ hvector).trans ?_)
    rw [Functor.map_map]
    rfl
  | vertical =>
    refine run_map_congr _ ((run_map_congr _ hvector).trans ?_)
    rw [Functor.map_map]
    rfl
  | table =>
    refine run_map_congr _ ((htable.trans (run_map_congr _ hvector)).trans ?_)
    rw [Functor.map_map]
    rfl

/-- As long as the items are no sequences, reading them as rows gives rows of one scalar each. -/
theorem run_items_flat (h : Flat m kind v n k s) :
    run ((List.range' k n).mapM fun i =>
        Queryable.item (m := m) v i >>= (extractVector kind : α → m (List Scalar))) s =
      run (List.map (fun x => [x]) <$> (List.range' k n).mapM fun i =>
        Queryable.item (m := m) v i >>= extractScalar kind) s := by
  rw [← mapM_map]
  induction n generalizing k s with
  | zero => rfl
  | succ n ih =>
    rw [List.range'_succ, List.mapM_cons, List.mapM_cons]
    rcases hitem : run (Queryable.item (m := m) v k) s with ⟨e | w, s₁⟩
    · rw [run_bind_error (run_bind_error hitem),
        run_bind_error (run_map_error (run_bind_error hitem))]
    · obtain ⟨hw, hrest⟩ := h w s₁ hitem
      have hvector : run (extractVector kind w : m (List Scalar)) s₁ =
          run ((· :: []) <$> extractScalar kind w : m (List Scalar)) s₁ := run_forItems_none _ hw
      rcases hscalar : run (extractScalar kind w : m Scalar) s₁ with ⟨e | x, s₂⟩
      · rw [run_map_error hscalar] at hvector
        rw [run_bind_error ((run_bind_ok hitem).trans hvector),
          run_bind_error (run_map_error ((run_bind_ok hitem).trans hscalar))]
      · rw [run_map_ok hscalar] at hvector
        rw [run_bind_ok ((run_bind_ok hitem).trans hvector),
          run_bind_ok (run_map_ok ((run_bind_ok hitem).trans hscalar)), run_bind, run_bind,
          ih (hrest x s₂ hscalar)]

theorem run_shape_flat (format : FormatSpec)
    (hn : run (Queryable.length v : m (Option Nat)) s = (.ok (some n), s'))
    (h : Flat m format.kind v n 0 s') :
    run (shape .table format v : m Grid) s = run (shape .vertical format v : m Grid) s := by
  have hitems := run_items_flat h
  rw [← List.range_eq_range'] at hitems
  refine run_map_congr _ ?_
  rw [valueRows, valueRows, extractTable, run_forItems_some _ hn, hitems]
  exact run_map_congr _ (run_forItems_some _ hn).symm

variable (m) in
def itemGrids (format : FormatSpec) (v : α) (n : Nat) : m (List Grid) :=
  (List.range n).mapM fun i => Queryable.item v i >>= shape .horizontal format

theorem itemGrids_eq [LawfulMonad m] (format : FormatSpec) (v : α) (n : Nat) :
    itemGrids m format v n = List.map (fun row => Grid.ofRows format.kind [row]) <$>
      (List.range n).mapM fun i => Queryable.item v i >>= extractVector format.kind := by
  rw [← mapM_map, itemGrids]
  congr 1
  funext i
  rw [map_bind]
  exact bind_congr fun w => shape_horizontal format w

theorem length_of_run_mapM {ι : Type} {x : ι → m β} {l : List ι} {bs : List β}
    (h : run (l.mapM x) s = (.ok bs, s')) : bs.length = l.length := by
  induction l generalizing s s' bs with
  | nil =>
    rw [List.mapM_nil, run_pure] at h
    cases h
    rfl
  | cons i l ih =>
    rw [List.mapM_cons] at h
    rcases hi : run (x i) s with ⟨e | b, s₁⟩
    · rw [run_bind_error hi] at h
      cases h
    · rcases hl : run (l.mapM x) s₁ with ⟨e | bs', s₂⟩
      · rw [run_bind_ok hi, run_bind_error hl] at h
        cases h
      · rw [run_bind_ok hi, run_bind_ok hl, run_pure] at h
        cases h
        rw [List.length_cons, List.length_cons, ih hl]

theorem size_of_run_cell {format : FormatSpec} {g : Grid}
    (h : run (shape .cell format v : m Grid) s = (.ok g, s')) : g.height = 1 ∧ g.width = 1 := by
  rw [shape, valueRows, Functor.map_map] at h
  rcases hx : run (extractScalar format.kind v : m Scalar) s with ⟨e | x, s₁⟩
  · rw [run_map_error hx] at h
    cases h
  · rw [run_map_ok hx] at h
    cases h
    rw [Grid.height_ofRows, Grid.width_ofRows]
    exact ⟨rfl, rfl⟩

/-- The table of a sequence that has items is the stack of their horizontal grids. -/
theorem run_shape_table (format : FormatSpec) (hpos : 0 < n)
    (hn : run (Queryable.length v : m (Option Nat)) s = (.ok (some n), s')) :
    (∃ grids g s'', run (itemGrids m format v n) s' = (.ok grids, s'') ∧
        run (shape .table format v : m Grid) s = (.ok g, s'') ∧ g.Stacks format.kind grids) ∨
      ∃ e s'', run (itemGrids m format v n) s' = (.error e, s'') ∧
        run (shape .table format v : m Grid) s = (.error e, s'') := by
  have htable := run_forItems_some (m := m) (extractVector format.kind) hn
  rw [itemGrids_eq]
  rcases hrows : run ((List.range n).mapM fun i =>
      Queryable.item (m := m) v i >>= extractVector format.kind) s' with ⟨e | rows, s''⟩
  · rw [hrows] at htable
    exact .inr ⟨e, s'', run_map_error hrows, run_map_error htable⟩
  · rw [hrows] at htable
    have hlength := length_of_run_mapM hrows
    have hne : rows ≠ [] := by
      rintro rfl
      rw [List.length_nil, List.length_range] at hlength
      omega
    exact .inl ⟨_, _, s'', run_map_ok hrows, run_map_ok htable, Grid.stacks_ofRows _ hne⟩

end Running

/-- The grids of a value for the four directions, with the errors and the effects of asking for them.
Asked as a table, a sequence of items gives their horizontal grids, one below the other. -/
theorem shape_directions {m : Type → Type} {σ α : Type} [Monad m] [Stateful m σ] [Queryable m α]
    (format : FormatSpec) (v : α) (s : σ) :
    (shape .vertical format v : m Grid) = Grid.transpose <$> shape .horizontal format v ∧
      (NoSequence m v s → ∀ d,
        run (shape d format v : m Grid) s = run (shape .cell format v : m Grid) s ∧
          ∀ g s', run (shape d format v : m Grid) s = (.ok g, s') → g.height = 1 ∧ g.width = 1) ∧
      ∀ n s', run (Queryable.length v : m (Option Nat)) s = (.ok (some n), s') →
        (Flat m format.kind v n 0 s' →
          run (shape .table format v : m Grid) s = run (shape .vertical format v : m Grid) s) ∧
        (0 < n →
          (∃ grids g s'', run (itemGrids m format v n) s' = (.ok grids, s'') ∧
            run (shape .table format v : m Grid) s = (.ok g, s'') ∧ g.Stacks format.kind grids) ∨
          ∃ e s'', run (itemGrids m format v n) s' = (.error e, s'') ∧
            run (shape .table format v : m Grid) s = (.error e, s'')) := by
  refine ⟨shape_vertical format v, fun h d => ?_, fun n s' hn =>
    ⟨run_shape_flat format hn, fun hpos => run_shape_table format hpos hn⟩⟩
  have hcell := run_shape_noSequence d format h
  exact ⟨hcell, fun g s' hg => size_of_run_cell (hcell.symm.trans hg)⟩

/-- One row of two numbers, one of none and a lone number as a table, and a flat sequence. -/
theorem shape_directions_ragged :
    (∃ grids g, itemGrids (Except EngineError) ⟨.int, -1⟩ ragged 3 = .ok grids ∧
      (shape .table ⟨.int, -1⟩ ragged : Except EngineError Grid) = .ok g ∧ g.Stacks .int grids) ∧
    (shape .table ⟨.int, -1⟩ (.array [.int 1, .text "2"] : Rhai.Value) : Except EngineError Grid) =
      shape .vertical ⟨.int, -1⟩ (.array [.int 1, .text "2"] : Rhai.Value) := by
  constructor
  · obtain ⟨-, -, hsequence⟩ := shape_directions (m := Except EngineError) ⟨.int, -1⟩ ragged ()
    rcases (hsequence 3 () rfl).2 (by decide) with ⟨grids, g, s, hgrids, hg, hstacks⟩ | ⟨e, s, he, -⟩
    · exact ⟨grids, g, congrArg Prod.fst hgrids, congrArg Prod.fst hg, hstacks⟩
    · cases he
  · obtain ⟨-, -, hsequence⟩ := shape_directions (m := Except EngineError) ⟨.int, -1⟩
      (.array [.int 1, .text "2"] : Rhai.Value) ()
    refine congrArg Prod.fst ((hsequence 2 () rfl).1 ?_)
    rintro w s ⟨⟩
    refine ⟨rfl, ?_⟩
    rintro x s ⟨⟩ w s ⟨⟩
    exact ⟨rfl, fun _ _ _ => trivial⟩

end SheetTemplate
