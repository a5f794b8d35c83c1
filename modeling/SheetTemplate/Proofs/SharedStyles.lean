import SheetTemplate.Proofs.Styling

namespace SheetTemplate

section

open Float.Model (UnpackedFloat)

theorem compare_magnitudes_eq {e e' : Int} {m m' : Nat} :
    (compare e e').then (compare m m') = .eq ↔ e = e' ∧ m = m' := by
  rw [Ordering.then_eq_eq, Int.compare_eq_eq, Nat.compare_eq_eq]

theorem compare_eq_symm {a b : UnpackedFloat} (h : a.compare b = some .eq) :
    b.compare a = some .eq := by
  cases a with
  | notANumber => cases b <;> cases h
  | infinity s =>
    cases b with
    | infinity t => cases s <;> cases t <;> first | rfl | cases h
    | notANumber | zero | finite => cases s <;> cases h
  | zero s =>
    cases b with
    | zero t => rfl
    | notANumber => cases h
    | infinity t | finite t => cases t <;> cases h
  | finite s m e =>
    cases b with
    | finite t m' e' =>
      have hsymm (h : (compare e e').then (compare m m') = .eq) :
          (compare e' e).then (compare m' m) = .eq := by
        rw [compare_magnitudes_eq] at h ⊢
        exact ⟨h.1.symm, h.2.symm⟩
      cases s <;> cases t
      case positive.positive => exact congrArg some (hsymm (Option.some.inj h))
      case negative.negative =>
        have hle := Ordering.swap_inj.1 (Option.some.inj h : _ = Ordering.eq.swap)
        exact congrArg (some ·.swap) (hsymm hle)
      case positive.negative | negative.positive => cases h
    | infinity t => cases s <;> cases t <;> cases h
    | notANumber | zero => cases s <;> cases h

theorem beq_float_symm {x y : Float} (h : (x == y) = true) : (y == x) = true := by
  change (x.toModel.unpack.compare y.toModel.unpack == some .eq) = true at h
  change (y.toModel.unpack.compare x.toModel.unpack == some .eq) = true
  rw [beq_iff_eq] at h ⊢
  exact compare_eq_symm h

/-- Every float but NaN equals itself. -/
theorem beq_float_self {x : Float} (h : x.isNaN = false) : (x == x) = true := by
  change x.toModel.unpack.isNaN = false at h
  change (x.toModel.unpack.compare x.toModel.unpack == some .eq) = true
  cases hx : x.toModel.unpack with
  | notANumber => rw [hx] at h; cases h
  | infinity s => cases s <;> rfl
  | zero s => rfl
  | finite s m e =>
    have hself : (compare e e).then (compare m m) = .eq := compare_magnitudes_eq.2 ⟨rfl, rfl⟩
    rw [beq_iff_eq]
    cases s with
    | positive => exact congrArg some hself
    | negative => exact congrArg (some ·.swap) hself

end

namespace Style

def Numeric (s : Style) : Prop := ∀ x, s.font.size = some x → x.isNaN = false

theorem beq_iff {a b : Style} :
    (a == b) = true ↔
      a = { b with font.size := a.font.size } ∧ (a.font.size == b.font.size) = true := by
  obtain ⟨⟨bold, italic, name, size, color⟩, fill, border, alignment, protection, places, format⟩ :=
    a
  obtain ⟨⟨bold', italic', name', size', color'⟩, fill', border', alignment', protection', places',
    format'⟩ := b
  change instBEqStyle.beq _ _ = true ↔ _
  unfold instBEqStyle.beq
  rw [Bool.and_eq_true]
  change instBEqFont.beq _ _ = true ∧ _ ↔ _
  unfold instBEqFont.beq
  simp only [Bool.and_eq_true, beq_iff_eq, Style.mk.injEq, Font.mk.injEq]
  tauto

theorem beq_symm {a b : Style} (h : (a == b) = true) : (b == a) = true := by
  obtain ⟨heq, hsize⟩ := beq_iff.1 h
  refine beq_iff.2 ⟨by rw [heq], ?_⟩
  clear heq
  generalize a.font.size = x at hsize ⊢
  generalize b.font.size = y at hsize ⊢
  cases x with
  | none => cases y <;> first | rfl | cases hsize
  | some x =>
    cases y with
    | none => cases hsize
    | some y => exact beq_float_symm hsize

theorem Numeric.beq_self {s : Style} (h : s.Numeric) : (s == s) = true := by
  refine beq_iff.2 ⟨rfl, ?_⟩
  cases hs : s.font.size with
  | none => rfl
  | some x => exact beq_float_self (h x hs)

theorem Numeric.withDisplayFormat {s : Style} (h : s.Numeric) (code : String) :
    (s.withDisplayFormat code).Numeric := h

theorem numeric_default : ({} : Style).Numeric := by
  rintro x ⟨⟩

end Style

/-- A table of styles as all calls keep it. -/
structure TableSound (styles : List Style) : Prop where
  default : styles[0]? = some ({} : Style)
  distinct : styles.Pairwise fun s t => (s == t) = false ∧ (t == s) = false
  numeric : ∀ s ∈ styles, s.Numeric

theorem tableSound_new : TableSound [{}] where
  default := rfl
  distinct := List.pairwise_singleton ..
  numeric := by simpa using Style.numeric_default

namespace Workbook

variable {styles : List Style} {s : Style}

/-- The table takes in a style exactly if no entry equals it. -/
theorem addToTable_snd (styles : List Style) (s : Style) :
    (addToTable styles s).2 = if ∃ t ∈ styles, (t == s) = true then styles else styles ++ [s] := by
  rw [Canvas.addToTable_eq]
  exact intern_snd styles s

theorem addToTable_equal (hs : s.Numeric) :
    ∃ t, (addToTable styles s).2[(addToTable styles s).1]? = some t ∧ (t == s) = true := by
  rw [Canvas.addToTable_eq]
  obtain ⟨t, ht, rfl | heq⟩ := getElem?_intern styles s
  · exact ⟨t, ht, hs.beq_self⟩
  · exact ⟨t, ht, heq⟩

theorem addToTable_fst_lt (styles : List Style) (s : Style) :
    (addToTable styles s).1 < (addToTable styles s).2.length := by
  obtain ⟨t, ht, -⟩ := addToTable_same styles s
  exact (List.getElem?_eq_some_iff.1 ht).1

end Workbook

namespace TableSound

variable {styles : List Style} {s : Style}

theorem length_pos (h : TableSound styles) : 0 < styles.length :=
  (List.getElem?_eq_some_iff.1 h.default).1

theorem addToTable (h : TableSound styles) (hs : s.Numeric) :
    TableSound (Workbook.addToTable styles s).2 := by
  rw [Workbook.addToTable_snd]
  split
  case isTrue => exact h
  case isFalse hnew =>
    constructor
    case default => rw [List.getElem?_append_left h.length_pos, h.default]
    case distinct =>
      rw [List.pairwise_append]
      refine ⟨h.distinct, List.pairwise_singleton .., ?_⟩
      rintro t ht _ (⟨⟩ | ⟨_, ⟨⟩⟩)
      have hne : ¬(t == s) = true := fun heq => hnew ⟨t, ht, heq⟩
      exact ⟨Bool.eq_false_iff.2 hne, Bool.eq_false_iff.2 fun heq => hne (Style.beq_symm heq)⟩
    case numeric =>
      intro t ht
      rcases List.mem_append.1 ht with ht | ht
      · exact h.numeric t ht
      · obtain rfl := List.mem_singleton.1 ht
        exact hs

/-- Styles made of the table's own are numeric too. -/
theorem numeric_getD (h : TableSound styles) (id : Nat) : (styles[id]?.getD {}).Numeric := by
  cases hid : styles[id]? with
  | none => exact Style.numeric_default
  | some t => exact h.numeric t (List.mem_of_getElem? hid)

end TableSound

def Sheet.StylesBelow (s : Sheet) (n : Nat) : Prop :=
  ∀ (pos : CellRef) (cell : Cell), s.cells[pos]? = some cell → cell.style < n

namespace Sheet.StylesBelow

variable {s : Sheet} {n m : Nat}

theorem empty (name : String) (n : Nat) : ({ name } : Sheet).StylesBelow n := by
  intro pos cell h
  change (∅ : CellMap)[pos]? = some cell at h
  rw [Std.TreeMap.getElem?_emptyc] at h
  cases h

theorem mono (h : s.StylesBelow n) (hnm : n ≤ m) : s.StylesBelow m :=
  fun pos cell hcell => Nat.lt_of_lt_of_le (h pos cell hcell) hnm

theorem styleAt_lt (h : s.StylesBelow n) (hn : 0 < n) (pos : CellRef) : s.styleAt pos < n := by
  unfold styleAt cellAt
  cases hpos : s.cells[pos]? with
  | none => exact hn
  | some cell => exact h pos cell hpos

theorem setValue (h : s.StylesBelow n) (hn : 0 < n) (pos : CellRef) (v : CellValue) :
    (s.setValue pos v).StylesBelow n := by
  intro x cell hx
  rw [getElem?_setValue] at hx
  split at hx
  case isTrue =>
    obtain rfl := Option.some.inj hx
    exact h.styleAt_lt hn pos
  case isFalse => exact h x cell hx

theorem setStyle {id : Nat} (h : s.StylesBelow n) (hid : id < n) (area : Area) :
    (s.setStyle area id).StylesBelow n := by
  intro x cell hx
  rw [Sheet.setStyle, getElem?_foldl_setStyleAt] at hx
  split at hx
  case isTrue =>
    obtain rfl := Option.some.inj hx
    exact hid
  case isFalse => exact h x cell hx

theorem insert (h : s.StylesBelow n) (axis : Axis) (start count : Nat) :
    (s.insert axis start count).StylesBelow n := by
  intro x cell hx
  obtain ⟨c, -, rfl⟩ := (s.mem_insert axis start count).1 (mem_cells_iff.2 ⟨cell, hx⟩)
  rw [getElem?_insert_shift, Option.map_eq_some_iff] at hx
  obtain ⟨old, hold, rfl⟩ := hx
  rw [Cell.style_carry]
  exact h c old hold

theorem makeRoom (h : s.StylesBelow n) (pos : CellRef) (g : Grid) :
    (s.makeRoom pos g).StylesBelow n :=
  (h.insert _ _ _).insert _ _ _

theorem put {id : Nat} (h : s.StylesBelow n) (hid : id < n) (pos : CellRef) (format : FormatSpec)
    (g : Grid) : (s.put pos format g id).StylesBelow n := by
  intro x cell hx
  by_cases hmem : x ∈ Area.sized pos g.width g.height
  · obtain ⟨r, hr, c, hc, rfl⟩ := Area.mem_sized_iff.1 hmem
    rw [getElem?_put_offset hr hc] at hx
    obtain rfl := Option.some.inj hx
    exact hid
  · rw [getElem?_put_of_not_mem hmem] at hx
    exact h x cell hx

end Sheet.StylesBelow

structure Canvas.Sound (t : Canvas) : Prop where
  table : TableSound t.styles
  cells : t.sheet.StylesBelow t.styles.length

theorem Canvas.Sound.answer {t : Canvas} (h : t.Sound) (pos : CellRef) (a : Answer) :
    (t.answer pos a).Sound where
  table := h.table.addToTable ((h.table.numeric_getD _).withDisplayFormat _)
  cells := ((h.cells.makeRoom pos a.grid).mono (prefix_addToTable ..).length_le).put
    (Workbook.addToTable_fst_lt ..) _ _ _

theorem Canvas.Sound.fill {t : Canvas} (h : t.Sound) (done : List Answer) : (t.fill done).Sound := by
  induction done using List.reverseRecOn with
  | nil => exact h
  | append_singleton done a ih =>
    rw [fill_concat]
    exact ih.answer ..

theorem sound_fillParts {styles : List Style} {parts : List Part} (htable : TableSound styles)
    (hcells : ∀ q ∈ parts, q.template.StylesBelow styles.length) :
    TableSound (fillParts styles parts).2 ∧
      ∀ s ∈ (fillParts styles parts).1, s.StylesBelow (fillParts styles parts).2.length := by
  induction parts using List.reverseRecOn with
  | nil => exact ⟨htable, by rintro s ⟨⟩⟩
  | append_singleton parts q ih =>
    obtain ⟨htable', hcells'⟩ := ih fun p hp => hcells p (List.mem_append_left _ hp)
    have hq : (⟨q.template, (fillParts styles parts).2⟩ : Canvas).Sound :=
      ⟨htable', (hcells q (List.mem_append_right _ List.mem_cons_self)).mono
        (length_styles_fillParts styles parts)⟩
    have hgrows := (Canvas.prefix_fill ⟨q.template, (fillParts styles parts).2⟩ q.answers).length_le
    rw [fillParts_concat]
    refine ⟨(hq.fill q.answers).table, ?_⟩
    intro s hs
    rcases List.mem_append.1 hs with hs | hs
    · exact (hcells' s hs).mono hgrows
    · obtain rfl := List.mem_singleton.1 hs
      exact (hq.fill q.answers).cells

structure Workbook.StylesSound (b : Workbook) : Prop where
  table : TableSound b.styles
  cells : ∀ s ∈ b.sheets, s.StylesBelow b.styles.length

section

variable {b : Workbook}

/-- Whether a render succeeds or fails, the table has grown at its end. -/
theorem Workbook.StylesSound.render (h : b.StylesSound) {σ : Type} [Evaluator σ] (engine : σ) :
    (render b engine).2.book.StylesSound ∧ b.styles <+: (SheetTemplate.render b engine).2.book.styles := by
  have hending := render_ending (Prod.eta (SheetTemplate.render b engine)).symm
  generalize (SheetTemplate.render b engine).1 = result at hending
  generalize (SheetTemplate.render b engine).2 = r at hending ⊢
  -- All sheets are filled templates or templates that are left.
  have hparts {parts : List Part} {later : List Sheet}
      (htemplates : b.sheets = parts.map (·.template) ++ later)
      (hsheets : r.book.sheets = (fillParts b.styles parts).1 ++ later)
      (hstyles : r.book.styles = (fillParts b.styles parts).2) :
      r.book.StylesSound ∧ b.styles <+: r.book.styles := by
    have hcells : ∀ q ∈ parts, q.template.StylesBelow b.styles.length := by
      intro q hq
      apply h.cells
      rw [htemplates]
      exact List.mem_append_left _ (List.mem_map_of_mem hq)
    obtain ⟨htable, hfilled⟩ := sound_fillParts h.table hcells
    refine ⟨⟨hstyles ▸ htable, ?_⟩, hstyles ▸ prefix_fillParts b.styles parts⟩
    intro s hs
    rw [hsheets] at hs
    rw [hstyles]
    rcases List.mem_append.1 hs with hs | hs
    · exact hfilled s hs
    · refine (h.cells s ?_).mono (length_styles_fillParts b.styles parts)
      rw [htemplates]
      exact List.mem_append_right _ hs
  cases hending with
  | finished progress => exact hparts progress.templates progress.sheets progress.styles
  | refused templates complete split answered eval sheets styles =>
    exact hparts (by rw [List.map_append, List.append_assoc]; exact templates) sheets styles
  | @unstyled parts q later f pending cell g _ _ templates _ _ _ _ stored style =>
    have hq : q.template ∈ b.sheets := by simp [show b.sheets = _ from templates]
    have hlt := (h.cells q.template hq).mono (length_styles_fillParts b.styles (parts ++ [q]))
      f.pos cell stored
    rw [List.getElem?_eq_none_iff] at style
    exact absurd hlt (Nat.not_lt.2 style)

/-- A call that may change a workbook. -/
inductive Call : Type 1 where
  | addSheet (name : String)
  | setValue (sheet : String) (pos : CellRef) (v : CellValue)
  | merge (sheet : String) (area : Area)
  | insert (sheet : String) (axis : Axis) (start count : Nat)
  | addStyle (style : Style)
  | setStyle (sheet : String) (area : Area) (id : Nat)
  | render (σ : Type) [Evaluator σ] (engine : σ)

namespace Workbook

/-- What a change returns, and the workbook that it leaves behind: one that fails leaves the
workbook as it was. -/
def attempt (b : Workbook) : Except SheetError Workbook → Except SheetError Unit × Workbook
  | .ok b' => (.ok (), b')
  | .error e => (.error e, b)

def call (b : Workbook) : Call → Except SheetError Unit × Workbook
  | .addSheet name => (.ok (), b.addSheet name)
  | .setValue name pos v => b.attempt (b.setValue name pos v)
  | .merge name area => b.attempt (b.merge name area)
  | .insert name axis start count => b.attempt (b.insert name axis start count)
  | .addStyle s => (.ok (), (b.addStyle s).2)
  | .setStyle name area id => b.attempt (b.setStyle name area id)
  | @Call.render _ _ engine =>
    ((SheetTemplate.render b engine).1, (SheetTemplate.render b engine).2.book)

end Workbook

def Call.Numeric : Call → Prop
  | .addStyle s => s.Numeric
  | _ => True

/-- The workbooks that calls lead to, one after the other, whether they succeed or fail. -/
inductive Workbook.Reached : Workbook → Prop
  | new : Reached {}
  | call {b : Workbook} (h : Reached b) (c : Call) (hc : c.Numeric) : Reached (b.call c).2

namespace Workbook

/-- A change of one sheet that keeps its cells within the table. -/
theorem StylesSound.attempt_modifySheet (h : b.StylesSound) (name : String) {f : Sheet → Sheet}
    (hf : ∀ s : Sheet, s.StylesBelow b.styles.length → (f s).StylesBelow b.styles.length) :
    (b.attempt (b.modifySheet name f)).2.StylesSound ∧
      b.styles <+: (b.attempt (b.modifySheet name f)).2.styles := by
  unfold modifySheet
  split
  case h_2 => exact ⟨h, List.prefix_refl _⟩
  case h_1 =>
    refine ⟨⟨h.table, ?_⟩, List.prefix_refl _⟩
    change ∀ s ∈ updateFirst name f b.sheets, s.StylesBelow b.styles.length
    have hcells := h.cells
    generalize b.sheets = sheets at hcells
    induction sheets with
    | nil => exact hcells
    | cons t rest ih =>
      rw [List.forall_mem_cons] at hcells
      rw [updateFirst]
      split
      · exact List.forall_mem_cons.2 ⟨hf t hcells.1, hcells.2⟩
      · exact List.forall_mem_cons.2 ⟨hcells.1, ih hcells.2⟩

theorem StylesSound.addSheet (h : b.StylesSound) (name : String) : (b.addSheet name).StylesSound := by
  unfold Workbook.addSheet
  split
  · exact h
  · refine ⟨h.table, ?_⟩
    intro s hs
    rcases List.mem_append.1 hs with hs | hs
    · exact h.cells s hs
    · obtain rfl := List.mem_singleton.1 hs
      exact .empty name _

theorem StylesSound.addStyle (h : b.StylesSound) {s : Style} (hs : s.Numeric) :
    (b.addStyle s).2.StylesSound where
  table := h.table.addToTable hs
  cells t ht := (h.cells t ht).mono (Canvas.prefix_addToTable b.styles s).length_le

theorem StylesSound.call (h : b.StylesSound) (c : Call) (hc : c.Numeric) :
    (b.call c).2.StylesSound ∧ b.styles <+: (b.call c).2.styles := by
  cases c with
  | addSheet name =>
    refine ⟨h.addSheet name, ?_⟩
    change b.styles <+: (b.addSheet name).styles
    unfold Workbook.addSheet
    split <;> exact List.prefix_refl _
  | setValue name pos v =>
    exact h.attempt_modifySheet name fun s hs => hs.setValue h.table.length_pos pos v
  | merge name area => exact h.attempt_modifySheet name fun s hs => hs
  | insert name axis start count => exact h.attempt_modifySheet name fun s hs => hs.insert _ _ _
  | addStyle s => exact ⟨h.addStyle hc, Canvas.prefix_addToTable b.styles s⟩
  | setStyle name area id =>
    change (b.attempt (b.setStyle name area id)).2.StylesSound ∧
      b.styles <+: (b.attempt (b.setStyle name area id)).2.styles
    unfold Workbook.setStyle
    split
    case isTrue hid => exact h.attempt_modifySheet name fun s hs => hs.setStyle hid area
    case isFalse => exact ⟨h, List.prefix_refl _⟩
  | render σ engine => exact h.render engine

theorem Reached.stylesSound (h : b.Reached) : b.StylesSound := by
  induction h with
  | new => exact ⟨tableSound_new, by rintro s ⟨⟩⟩
  | call _ c hc ih => exact (ih.call c hc).1

/-- Setting a style fails exactly if the table lacks the style or the workbook the sheet, and then
nothing changes. -/
theorem call_setStyle_error_iff {name : String} {area : Area} {id : Nat} {e : SheetError}
    {b' : Workbook} :
    b.call (.setStyle name area id) = (.error e, b') ↔
      b' = b ∧ (b.styles.length ≤ id ∧ e = .unknownStyle id ∨
        id < b.styles.length ∧ name ∉ b.sheetNames ∧ e = .unknownSheet name) := by
  change b.attempt (b.setStyle name area id) = (.error e, b') ↔ _
  unfold Workbook.setStyle
  split
  case isFalse hid =>
    change (Except.error (SheetError.unknownStyle id), b) = (.error e, b') ↔ _
    simp only [Prod.mk.injEq, Except.error.injEq]
    grind
  case isTrue hid =>
    unfold modifySheet
    split
    case h_1 s hs =>
      have hmem : name ∈ b.sheetNames := by
        obtain rfl : s.name = name := by simpa using List.find?_some hs
        exact List.mem_map_of_mem (List.mem_of_find?_eq_some hs)
      change (Except.ok (), _) = (Except.error e, b') ↔ _
      simp only [Prod.mk.injEq, reduceCtorEq, false_and, false_iff]
      grind
    case h_2 hnone =>
      have hmem : name ∉ b.sheetNames := by
        intro hmem
        obtain ⟨s, hs, rfl⟩ := List.mem_map.1 hmem
        simpa using List.find?_eq_none.1 hnone s hs
      change (Except.error (SheetError.unknownSheet name), b) = (.error e, b') ↔ _
      simp only [Prod.mk.injEq, Except.error.injEq]
      grind

/-- The table of styles of every workbook that calls lead to. -/
theorem Reached.styleTable (h : b.Reached) :
    b.styles[0]? = some ({} : Style) ∧
      b.styles.Pairwise (fun s t => (s == t) = false ∧ (t == s) = false) ∧
      (∀ s ∈ b.sheets, ∀ (pos : CellRef) (cell : Cell), s.cells[pos]? = some cell →
        cell.style < b.styles.length) ∧
      (∀ c : Call, c.Numeric → b.styles <+: (b.call c).2.styles) ∧
      (∀ s : Style, s.Numeric →
        (∃ t, (b.addStyle s).2.styles[(b.addStyle s).1]? = some t ∧ (t == s) = true) ∧
          (b.addStyle s).2.styles.length =
            b.styles.length + if ∃ t ∈ b.styles, (t == s) = true then 0 else 1) ∧
      ∀ (name : String) (area : Area) (id : Nat) (e : SheetError) (b' : Workbook),
        b.call (.setStyle name area id) = (.error e, b') ↔
          b' = b ∧ (b.styles.length ≤ id ∧ e = .unknownStyle id ∨
            id < b.styles.length ∧ name ∉ b.sheetNames ∧ e = .unknownSheet name) := by
  have hsound := h.stylesSound
  refine ⟨hsound.table.default, hsound.table.distinct, hsound.cells,
    fun c hc => (hsound.call c hc).2, ?_, fun _ _ _ _ _ => call_setStyle_error_iff⟩
  intro s hs
  refine ⟨addToTable_equal hs, ?_⟩
  change (addToTable b.styles s).2.length = _
  rw [addToTable_snd]
  split
  · rfl
  · exact List.length_append

def calls (b : Workbook) (cs : List Call) : Workbook := cs.foldl (fun b c => (b.call c).2) b

def calledBook : Workbook :=
  ({} : Workbook).calls
    [.addSheet "Report", .setValue "Report" ⟨0, 0⟩ (.text "\x7b\x7bH(.1f)|[x]a\x7d\x7d"),
      .addStyle { font.bold := true, font.size := some 12 }, .setStyle "Report" ⟨0, 0, 1, 0⟩ 1,
      .setStyle "Report" ⟨0, 0, 1, 0⟩ 2, .setStyle "Summary" ⟨0, 0, 1, 0⟩ 1,
      .render Prepared ⟨[sampleGrid]⟩, .insert "Report" .row 1 2]

theorem Reached.calls {cs : List Call} (h : b.Reached) (hcs : ∀ c ∈ cs, c.Numeric) :
    (b.calls cs).Reached := by
  induction cs generalizing b with
  | nil => exact h
  | cons c cs ih =>
    rw [List.forall_mem_cons] at hcs
    exact ih (h.call c hcs.1) hcs.2

theorem Reached.styleTable_calledBook :
    calledBook.Reached ∧ calledBook.styles.length = 3 ∧
      (∀ s ∈ calledBook.sheets, ∀ (pos : CellRef) (cell : Cell), s.cells[pos]? = some cell →
        cell.style < calledBook.styles.length) ∧
      (calledBook.addStyle { font.bold := true, font.size := some 12 }).1 = 1 ∧
      calledBook.call (.setStyle "Summary" ⟨0, 0, 1, 0⟩ 1) =
        (.error (.unknownSheet "Summary"), calledBook) := by
  have hnumeric : Style.Numeric { font.bold := true, font.size := some 12 } := by
    rintro x ⟨⟩
    decide
  have hreached : calledBook.Reached := Reached.new.calls (by simp [Call.Numeric, hnumeric])
  obtain ⟨-, -, hcells, -, -, hset⟩ := hreached.styleTable
  refine ⟨hreached, by rfl, hcells, by decide, (hset _ _ _ _ _).2 ⟨rfl, .inr ?_⟩⟩
  exact ⟨by decide, by decide, rfl⟩

end Workbook

end

end SheetTemplate
