import SheetTemplate.Proofs.Failing
import SheetTemplate.Proofs.StoredStyles
import SheetTemplate.Proofs.Styling

namespace SheetTemplate.Xlsx

theorem formatIndex_eq (formats : List CellFormat) (f : CellFormat) :
    formatIndex formats f = intern formats f := rfl

theorem formats_prefix_formatIndex (formats : List CellFormat) (f : CellFormat) :
    formats <+: (formatIndex formats f).2 := by
  rw [formatIndex_eq]
  exact prefix_intern formats f

theorem getElem?_formatIndex (formats : List CellFormat) (f : CellFormat) :
    (formatIndex formats f).2[(formatIndex formats f).1]? = some f := by
  rw [formatIndex_eq]
  obtain ⟨f', hf', rfl | heq⟩ := getElem?_intern formats f
  · exact hf'
  · rw [hf', beq_iff_eq.1 heq]

structure FormatsSound (formats : List CellFormat) : Prop where
  default : formats[0]? = some ({} : CellFormat)
  sound : ∀ f ∈ formats, f.Sound

theorem sound_default : ({} : CellFormat).Sound := ⟨by rintro c ⟨⟩, by rintro c ⟨⟩⟩

theorem FormatsSound.formatIndex {formats : List CellFormat} (h : FormatsSound formats)
    {f : CellFormat} (hf : f.Sound) : FormatsSound (formatIndex formats f).2 where
  default := getElem?_kept (formats_prefix_formatIndex formats f) h.default
  sound := by
    rw [formatIndex_eq, intern_snd]
    split
    case isTrue => exact h.sound
    case isFalse =>
      rw [List.forall_mem_append]
      exact ⟨h.sound, by simpa using hf⟩

theorem sound_formatOf {styles : List CellFormat} (h : ∀ f ∈ styles, f.Sound) (id : Nat) :
    (formatOf styles id).Sound := by
  unfold formatOf
  cases hf : styles[id]? with
  | none => exact sound_default
  | some f => exact h f (List.mem_of_getElem? hf)

def Within (c : CellRef) : Prop := c.row < rowLimit ∧ c.col < columnLimit

theorem checkLimits_eq_ok_iff {c : CellRef} : checkLimits c = .ok () ↔ Within c := by
  unfold checkLimits Within
  split
  case isTrue h => exact iff_of_true rfl h
  case isFalse h => exact iff_of_false (by rintro ⟨⟩) h

structure Fits (n : Nat) (c : CellRef) (cell : StoredCell) : Prop where
  place : Within c
  format : cell.format < n
  text : ∀ s, cell.content = .text s → s ≠ ""

theorem Fits.mono {n m : Nat} {c : CellRef} {cell : StoredCell} (h : Fits n c cell) (hnm : n ≤ m) :
    Fits m c cell :=
  ⟨h.place, Nat.lt_of_lt_of_le h.format hnm, h.text⟩

namespace StoredSheet

def cellAt (s : StoredSheet) (c : CellRef) : StoredCell := s.cells[c]?.getD ⟨.blank, 0⟩

/-- Sheets as a package can hold them. -/
structure Sound (s : StoredSheet) (n : Nat) : Prop where
  cells : ∀ c cell, s.cells[c]? = some cell → Fits n c cell
  merges : ∀ a ∈ s.merges, Within a.topLeft ∧ Within a.bottomRight

variable {s : StoredSheet} {n m : Nat}

theorem Sound.mono (h : s.Sound n) (hnm : n ≤ m) : s.Sound m :=
  ⟨fun c cell hcell => (h.cells c cell hcell).mono hnm, h.merges⟩

theorem name_put (s : StoredSheet) (c : CellRef) (cell : StoredCell) :
    (s.put c cell).name = s.name := by
  unfold put
  split <;> rfl

theorem merges_put (s : StoredSheet) (c : CellRef) (cell : StoredCell) :
    (s.put c cell).merges = s.merges := by
  unfold put
  split <;> rfl

theorem cellAt_put (s : StoredSheet) (c x : CellRef) (cell : StoredCell) :
    (s.put c cell).cellAt x = if c = x then cell else s.cellAt x := by
  unfold put cellAt
  split
  case h_1 =>
    simp only [Std.TreeMap.getElem?_erase, Std.LawfulEqCmp.compare_eq_iff_eq]
    split <;> rfl
  case h_2 =>
    simp only [Std.TreeMap.getElem?_insert, Std.LawfulEqCmp.compare_eq_iff_eq]
    split <;> rfl

theorem Sound.put (h : s.Sound n) {c : CellRef} {cell : StoredCell} (hcell : Fits n c cell) :
    (s.put c cell).Sound n := by
  constructor
  · intro x other hx
    unfold StoredSheet.put at hx
    split at hx
    case h_1 =>
      simp only [Std.TreeMap.getElem?_erase, Std.LawfulEqCmp.compare_eq_iff_eq] at hx
      split at hx
      case isTrue => cases hx
      case isFalse => exact h.cells x other hx
    case h_2 =>
      simp only [Std.TreeMap.getElem?_insert, Std.LawfulEqCmp.compare_eq_iff_eq] at hx
      split at hx
      case isTrue heq =>
        cases hx
        exact heq ▸ hcell
      case isFalse => exact h.cells x other hx
  · rw [merges_put]
    exact h.merges

def putAll (s : StoredSheet) (l : List CellRef) (cell : StoredCell) : StoredSheet :=
  l.foldl (·.put · cell) s

theorem name_putAll (s : StoredSheet) (l : List CellRef) (cell : StoredCell) :
    (s.putAll l cell).name = s.name := by
  induction l generalizing s with
  | nil => rfl
  | cons c l ih => exact (ih (s.put c cell)).trans (name_put s c cell)

theorem merges_putAll (s : StoredSheet) (l : List CellRef) (cell : StoredCell) :
    (s.putAll l cell).merges = s.merges := by
  induction l generalizing s with
  | nil => rfl
  | cons c l ih => exact (ih (s.put c cell)).trans (merges_put s c cell)

theorem cellAt_putAll (s : StoredSheet) (l : List CellRef) (cell : StoredCell) (x : CellRef) :
    (s.putAll l cell).cellAt x = if x ∈ l then cell else s.cellAt x := by
  induction l generalizing s with
  | nil => rw [if_neg List.not_mem_nil]; rfl
  | cons c l ih =>
    refine (ih (s.put c cell)).trans ?_
    rw [cellAt_put]
    by_cases hmem : x ∈ l
    · rw [if_pos hmem, if_pos (List.mem_cons_of_mem _ hmem)]
    · simp only [hmem, if_false, List.mem_cons, or_false, eq_comm]

theorem Sound.putAll (h : s.Sound n) {l : List CellRef} {cell : StoredCell}
    (hl : ∀ c ∈ l, Fits n c cell) : (s.putAll l cell).Sound n := by
  induction l generalizing s with
  | nil => exact h
  | cons c l ih =>
    rw [List.forall_mem_cons] at hl
    exact ih (h.put hl.1) hl.2

def addRegion (s : StoredSheet) (a : Area) (i : Nat) : StoredSheet :=
  let s := if i = 0 then s else s.putAll a.cells ⟨.blank, i⟩
  { s with merges := s.merges ++ [a] }

theorem name_addRegion (s : StoredSheet) (a : Area) (i : Nat) : (s.addRegion a i).name = s.name := by
  unfold addRegion
  split
  case isTrue => rfl
  case isFalse => exact name_putAll _ _ _

theorem merges_addRegion (s : StoredSheet) (a : Area) (i : Nat) :
    (s.addRegion a i).merges = s.merges ++ [a] := by
  unfold addRegion
  split
  case isTrue => rfl
  case isFalse => exact congrArg (· ++ [a]) (merges_putAll _ _ _)

theorem cellAt_addRegion (s : StoredSheet) (a : Area) (i : Nat) (c : CellRef) :
    (s.addRegion a i).cellAt c = s.cellAt c ∨
      c ∈ a.cells ∧ (s.addRegion a i).cellAt c = ⟨.blank, i⟩ := by
  unfold addRegion
  split
  case isTrue => exact .inl rfl
  case isFalse =>
    by_cases hc : c ∈ a.cells
    · exact .inr ⟨hc, (cellAt_putAll _ _ _ c).trans (if_pos hc)⟩
    · exact .inl ((cellAt_putAll _ _ _ c).trans (if_neg hc))

theorem within_of_mem_cells {a : Area} (h : Within a.topLeft) (h' : Within a.bottomRight)
    {c : CellRef} (hc : c ∈ a.cells) : Within c := by
  unfold Within Area.topLeft Area.bottomRight at *
  obtain ⟨row, col⟩ := c
  simp only [Area.cells, List.mem_flatMap, List.mem_map, List.mem_range'_1, CellRef.mk.injEq] at hc
  obtain ⟨r, hr, x, hx, rfl, rfl⟩ := hc
  dsimp only at *
  omega

theorem Sound.addRegion (h : s.Sound n) {a : Area} {i : Nat} (hi : i < n)
    (hfirst : Within a.topLeft) (hlast : Within a.bottomRight) : (s.addRegion a i).Sound n := by
  have hblanks : (s.putAll a.cells ⟨.blank, i⟩).Sound n :=
    h.putAll fun c hc => ⟨within_of_mem_cells hfirst hlast hc, hi, by rintro s ⟨⟩⟩
  constructor
  · unfold StoredSheet.addRegion
    split
    case isTrue => exact h.cells
    case isFalse => exact hblanks.cells
  · rw [merges_addRegion, List.forall_mem_append]
    exact ⟨h.merges, by simpa using ⟨hfirst, hlast⟩⟩

end StoredSheet

structure Advances (st st' : StoreState) : Prop where
  formats : st.1 <+: st'.1
  table : FormatsSound st.1 → FormatsSound st'.1
  sheet : st.2.Sound st.1.length → st'.2.Sound st'.1.length
  name : st'.2.name = st.2.name

theorem Advances.refl (st : StoreState) : Advances st st := ⟨List.prefix_refl _, id, id, rfl⟩

theorem Advances.trans {st st' st'' : StoreState} (h : Advances st st') (h' : Advances st' st'') :
    Advances st st'' :=
  ⟨h.formats.trans h'.formats, h'.table ∘ h.table, h'.sheet ∘ h.sheet, h'.name.trans h.name⟩

theorem Advances.foldlM {α : Type} {f : StoreState → α → Except SheetError StoreState} {l : List α}
    (hstep : ∀ a ∈ l, ∀ st st', f st a = .ok st' → Advances st st') {st st' : StoreState}
    (h : l.foldlM f st = .ok st') : Advances st st' := by
  induction l generalizing st with
  | nil =>
    cases h
    exact .refl _
  | cons a l ih =>
    rw [List.forall_mem_cons] at hstep
    obtain ⟨st₁, hst₁, h⟩ := bind_eq_ok_iff.1 h
    exact (hstep.1 st st₁ hst₁).trans (ih hstep.2 h)

variable {styles : List CellFormat}

def tableWith (styles formats : List CellFormat) (id : Nat) : Nat × List CellFormat :=
  formatIndex formats (formatOf styles id)

theorem fst_tableWith_lt (styles formats : List CellFormat) (id : Nat) :
    (tableWith styles formats id).1 < (tableWith styles formats id).2.length :=
  (List.getElem?_eq_some_iff.1 (getElem?_formatIndex formats _)).1

def isRegion (a : Area) : Bool := a.width ≠ 1 ∨ a.height ≠ 1

theorem storeMerge_eq_ok {sheet : Sheet} {st st' : StoreState} {a : Area}
    (h : storeMerge styles sheet st a = .ok st') :
    if isRegion a then
      Within a.topLeft ∧ Within a.bottomRight ∧
        st' = ((tableWith styles st.1 (sheet.styleAt a.topLeft)).2,
          st.2.addRegion a (tableWith styles st.1 (sheet.styleAt a.topLeft)).1)
    else st' = st := by
  unfold storeMerge at h
  dsimp only at h
  unfold isRegion
  split at h
  case isTrue hsingle =>
    cases h
    rw [if_neg (by simp [hsingle])]
  case isFalse hregion =>
    rw [if_pos (by rw [decide_eq_true_eq, ← not_and_or]; exact hregion)]
    obtain ⟨-, -, h⟩ := bind_eq_ok_iff.1 h
    obtain ⟨-, -, h⟩ := bind_eq_ok_iff.1 h
    obtain ⟨⟨⟩, hfirst, h⟩ := bind_eq_ok_iff.1 h
    obtain ⟨⟨⟩, hlast, h⟩ := bind_eq_ok_iff.1 h
    refine ⟨checkLimits_eq_ok_iff.1 hfirst, checkLimits_eq_ok_iff.1 hlast, ?_⟩
    split at h
    case isTrue => cases h
    case isFalse => exact (Except.ok.inj h).symm

theorem advances_storeMerge (hstyles : ∀ f ∈ styles, f.Sound) {sheet : Sheet} {st st' : StoreState}
    {a : Area} (h : storeMerge styles sheet st a = .ok st') : Advances st st' := by
  have hcases := storeMerge_eq_ok h
  split at hcases
  case isFalse =>
    rw [hcases]
    exact .refl st
  case isTrue =>
    obtain ⟨hfirst, hlast, rfl⟩ := hcases
    have hgrows : st.1 <+: (tableWith styles st.1 (sheet.styleAt a.topLeft)).2 :=
      formats_prefix_formatIndex _ _
    exact ⟨hgrows, fun ht => ht.formatIndex (sound_formatOf hstyles _),
      fun hs => (hs.mono hgrows.length_le).addRegion (fst_tableWith_lt _ _ _) hfirst hlast,
      StoredSheet.name_addRegion _ _ _⟩

/-- The regions are stored in order. Nothing but blanks stands in them yet, and nothing outside. -/
theorem storeMerges {sheet : Sheet} {merges : List Area} {st st' : StoreState}
    (h : merges.foldlM (storeMerge styles sheet) st = .ok st') :
    st'.2.merges = st.2.merges ++ merges.filter isRegion ∧
      (∀ c, (∀ a ∈ merges.filter isRegion, c ∉ a.cells) → st'.2.cellAt c = st.2.cellAt c) ∧
      ((∀ c, (st.2.cellAt c).content = .blank) → ∀ c, (st'.2.cellAt c).content = .blank) := by
  induction merges generalizing st with
  | nil =>
    cases h
    exact ⟨(List.append_nil _).symm, fun _ _ => rfl, id⟩
  | cons a merges ih =>
    obtain ⟨st₁, hst₁, h⟩ := bind_eq_ok_iff.1 h
    obtain ⟨hmerges, hframe, hblank⟩ := ih h
    have hcases := storeMerge_eq_ok hst₁
    split at hcases
    case isFalse hsingle =>
      rw [List.filter_cons_of_neg hsingle, ← hcases]
      exact ⟨hmerges, hframe, hblank⟩
    case isTrue hregion =>
      obtain ⟨-, -, rfl⟩ := hcases
      rw [List.filter_cons_of_pos hregion]
      refine ⟨hmerges.trans ?_, fun c hc => ?_, fun hall => hblank fun c => ?_⟩
      · rw [StoredSheet.merges_addRegion, List.append_assoc, List.singleton_append]
      · rw [List.forall_mem_cons] at hc
        rw [hframe c hc.2]
        exact (StoredSheet.cellAt_addRegion _ _ _ c).resolve_right fun h => hc.1 h.1
      · rcases StoredSheet.cellAt_addRegion st.2 a
          (tableWith styles st.1 (sheet.styleAt a.topLeft)).1 c with hsame | ⟨-, hnew⟩
        · rw [hsame]
          exact hall c
        · rw [hnew]

theorem storeCell_eq_ok {st st' : StoreState} {e : CellRef × Cell}
    (h : storeCell styles st e = .ok st') :
    (e.2.value = .empty ∧ e.2.style = 0 ∧ st' = st) ∨
      ∃ content, Content.ofValue e.2.value = .ok content ∧ Within e.1 ∧
        st' = ((tableWith styles st.1 e.2.style).2,
          st.2.put e.1 ⟨content, (tableWith styles st.1 e.2.style).1⟩) := by
  obtain ⟨c, cell⟩ := e
  unfold storeCell at h
  obtain ⟨-, -, h⟩ := bind_eq_ok_iff.1 h
  split at h
  case h_1 =>
    cases h
    exact .inl ⟨rfl, rfl, rfl⟩
  case h_2 =>
    obtain ⟨⟨⟩, hlimits, h⟩ := bind_eq_ok_iff.1 h
    obtain ⟨content, hcontent, h⟩ := bind_eq_ok_iff.1 h
    cases h
    exact .inr ⟨content, hcontent, checkLimits_eq_ok_iff.1 hlimits, rfl⟩

theorem ne_empty_of_ofValue {v : CellValue} {s : String} (h : Content.ofValue v = .ok (.text s)) :
    s ≠ "" := by
  unfold Content.ofValue at h
  split at h
  case h_2 t =>
    split at h
    case isTrue => cases h
    case isFalse hne =>
      split at h
      case isTrue => cases h
      case isFalse =>
        cases h
        rintro rfl
        exact hne rfl
  case h_4 =>
    have hcontent := Except.ok.inj h
    split at hcontent <;> cases hcontent
  all_goals cases h

theorem advances_storeCell (hstyles : ∀ f ∈ styles, f.Sound) {st st' : StoreState}
    {e : CellRef × Cell} (h : storeCell styles st e = .ok st') : Advances st st' := by
  rcases storeCell_eq_ok h with ⟨-, -, rfl⟩ | ⟨content, hcontent, hplace, rfl⟩
  · exact .refl _
  · have hgrows : st.1 <+: (tableWith styles st.1 e.2.style).2 := formats_prefix_formatIndex _ _
    refine ⟨hgrows, fun ht => ht.formatIndex (sound_formatOf hstyles _), fun hs => ?_,
      StoredSheet.name_put _ _ _⟩
    refine (hs.mono hgrows.length_le).put ⟨hplace, fst_tableWith_lt _ _ _, ?_⟩
    rintro s rfl
    exact ne_empty_of_ofValue hcontent

/-- What a cell of the sheet becomes: a plain empty one leaves the place as it was. -/
def Written (styles formats : List CellFormat) (cell : Cell) (before after : StoredCell) : Prop :=
  (cell.value = .empty ∧ cell.style = 0 ∧ after = before) ∨
    (Content.ofValue cell.value = .ok after.content ∧
      formats[after.format]? = some (formatOf styles cell.style))

/-- Every cell is written to its place, and no other place changes. -/
theorem storeCells (hstyles : ∀ f ∈ styles, f.Sound) {l : List (CellRef × Cell)}
    (hl : (l.map (·.1)).Nodup) {st st' : StoreState} (h : l.foldlM (storeCell styles) st = .ok st') :
    st'.2.merges = st.2.merges ∧ (∀ c ∉ l.map (·.1), st'.2.cellAt c = st.2.cellAt c) ∧
      ∀ e ∈ l, Written styles st'.1 e.2 (st.2.cellAt e.1) (st'.2.cellAt e.1) := by
  induction l generalizing st with
  | nil =>
    cases h
    exact ⟨rfl, fun _ _ => rfl, by rintro e ⟨⟩⟩
  | cons e l ih =>
    rw [List.map_cons, List.nodup_cons] at hl
    obtain ⟨st₁, hst₁, h⟩ := bind_eq_ok_iff.1 h
    obtain ⟨hmerges, hframe, hwritten⟩ := ih hl.2 h
    have hgrows := (Advances.foldlM (fun _ _ _ _ => advances_storeCell hstyles) h).formats
    -- The places are all different, so what is written to one of them stays.
    have hother : ∀ c, c ≠ e.1 → st₁.2.cellAt c = st.2.cellAt c := by
      intro c hc
      rcases storeCell_eq_ok hst₁ with ⟨-, -, rfl⟩ | ⟨content, -, -, rfl⟩
      · rfl
      · exact (StoredSheet.cellAt_put _ _ _ _).trans (if_neg (Ne.symm hc))
    refine ⟨hmerges.trans ?_, fun c hc => ?_, List.forall_mem_cons.2 ⟨?_, fun x hx => ?_⟩⟩
    · rcases storeCell_eq_ok hst₁ with ⟨-, -, rfl⟩ | ⟨content, -, -, rfl⟩
      · rfl
      · exact StoredSheet.merges_put _ _ _
    · rw [List.map_cons, List.mem_cons, not_or] at hc
      rw [hframe c hc.2, hother c hc.1]
    · rw [hframe _ hl.1]
      rcases storeCell_eq_ok hst₁ with ⟨hvalue, hstyle, rfl⟩ | ⟨content, hcontent, -, rfl⟩
      · exact .inl ⟨hvalue, hstyle, rfl⟩
      · refine .inr ?_
        dsimp only
        rw [StoredSheet.cellAt_put, if_pos rfl]
        exact ⟨hcontent, getElem?_kept hgrows (getElem?_formatIndex _ _)⟩
    · rw [← hother x.1 fun heq => hl.1 (heq ▸ List.mem_map_of_mem hx)]
      exact hwritten x hx

/-- What is stored of a sheet, with the formats of the table. -/
structure Keeps (styles : List CellFormat) (s : Sheet) (formats : List CellFormat)
    (stored : StoredSheet) : Prop where
  name : stored.name = s.name
  merges : stored.merges = s.merges.filter isRegion
  content : ∀ c, Content.ofValue (s.valueAt c) = .ok (stored.cellAt c).content
  format : ∀ c, (∀ a ∈ s.merges.filter isRegion, c ∉ a.cells) →
    formats[(stored.cellAt c).format]? = some (formatOf styles (s.styleAt c))
  sound : stored.Sound formats.length

theorem Keeps.mono {s : Sheet} {formats formats' : List CellFormat} {stored : StoredSheet}
    (h : Keeps styles s formats stored) (hgrows : formats <+: formats') :
    Keeps styles s formats' stored :=
  { h with
    format := fun c hc => getElem?_kept hgrows (h.format c hc)
    sound := h.sound.mono hgrows.length_le }

theorem nodup_cells (s : Sheet) : (s.cells.toList.map (·.1)).Nodup := by
  refine List.pairwise_map.2 (Std.TreeMap.distinct_keys_toList.imp fun hne heq => hne ?_)
  rw [heq]
  exact Std.ReflCmp.compare_self

/-- Every place is that of a cell of the sheet, or the sheet has nothing there. -/
theorem mem_cells_or_cellAt_eq (s : Sheet) (c : CellRef) :
    (c, s.cellAt c) ∈ s.cells.toList ∨ c ∉ s.cells.toList.map (·.1) ∧ s.cellAt c = {} := by
  cases hc : s.cells[c]? with
  | none =>
    refine .inr ⟨fun hmem => ?_, ?_⟩
    · obtain ⟨e, he, rfl⟩ := List.mem_map.1 hmem
      rw [Std.TreeMap.mem_toList_iff_getElem?_eq_some.1 he] at hc
      cases hc
    · rw [Sheet.cellAt, hc]
      rfl
  | some cell =>
    rw [Sheet.cellAt_eq_of_getElem? hc]
    exact .inl (Std.TreeMap.mem_toList_iff_getElem?_eq_some.2 hc)

theorem storeSheet_keeps (hstyles : ∀ f ∈ styles, f.Sound) (hdefault : formatOf styles 0 = {})
    {formats formats' : List CellFormat} (htable : FormatsSound formats) {s : Sheet}
    {stored : StoredSheet} (h : storeSheet styles formats s = .ok (formats', stored)) :
    formats <+: formats' ∧ FormatsSound formats' ∧ Keeps styles s formats' stored := by
  obtain ⟨-, -, h⟩ := bind_eq_ok_iff.1 h
  obtain ⟨st, hst, h⟩ := bind_eq_ok_iff.1 h
  have hregions := Advances.foldlM (fun _ _ _ _ => advances_storeMerge hstyles) hst
  have hcells := Advances.foldlM (fun _ _ _ _ => advances_storeCell hstyles) h
  have hall := hregions.trans hcells
  obtain ⟨hmerges, hframe, hblank⟩ := storeMerges hst
  obtain ⟨hsame, hother, hwritten⟩ := storeCells hstyles (nodup_cells s) h
  have hempty (c : CellRef) : ({ name := s.name } : StoredSheet).cellAt c = ⟨.blank, 0⟩ := rfl
  have hblanks (c : CellRef) : (st.2.cellAt c).content = .blank := hblank (fun _ => rfl) c
  -- A place is that of a cell of the sheet, or nothing is written there.
  have hplace (c : CellRef) : (s.cellAt c = {} ∧ stored.cellAt c = st.2.cellAt c) ∨
      Written styles formats' (s.cellAt c) (st.2.cellAt c) (stored.cellAt c) := by
    rcases mem_cells_or_cellAt_eq s c with hcell | ⟨hmem, hcell⟩
    · exact .inr (hwritten _ hcell)
    · exact .inl ⟨hcell, hother c hmem⟩
  have htable' : FormatsSound formats' := hall.table htable
  refine ⟨hall.formats, htable', hall.name, hsame.trans hmerges, fun c => ?_, fun c hc => ?_,
    hall.sheet ⟨by simp, by simp⟩⟩
  · rcases hplace c with ⟨hcell, hstored⟩ | ⟨hvalue, -, hstored⟩ | ⟨hvalue, -⟩
    · rw [Sheet.valueAt, hcell, hstored, hblanks]
      rfl
    · rw [Sheet.valueAt, hvalue, hstored, hblanks]
      rfl
    · exact hvalue
  · have hplain : st.2.cellAt c = ⟨.blank, 0⟩ := hframe c hc
    rcases hplace c with ⟨hcell, hstored⟩ | ⟨-, hstyle, hstored⟩ | ⟨-, hformat⟩
    · rw [Sheet.styleAt, hcell, hstored, hplain, hdefault]
      exact htable'.default
    · rw [Sheet.styleAt, hstyle, hstored, hplain, hdefault]
      exact htable'.default
    · exact hformat

theorem storeSheets_keeps (hstyles : ∀ f ∈ styles, f.Sound) (hdefault : formatOf styles 0 = {})
    {formats : List CellFormat} (htable : FormatsSound formats) {sheets : List Sheet}
    {book : StoredBook} (h : storeSheets styles formats sheets = .ok book) :
    formats <+: book.formats ∧ FormatsSound book.formats ∧
      List.Forall₂ (fun s stored => Keeps styles s book.formats stored) sheets book.sheets := by
  induction sheets generalizing formats book with
  | nil =>
    cases h
    exact ⟨List.prefix_refl _, htable, .nil⟩
  | cons s sheets ih =>
    obtain ⟨⟨formats₁, stored⟩, hstored, h⟩ := bind_eq_ok_iff.1 h
    obtain ⟨rest, hrest, h⟩ := bind_eq_ok_iff.1 h
    cases h
    obtain ⟨hgrows, htable₁, hkeeps⟩ := storeSheet_keeps hstyles hdefault htable hstored
    obtain ⟨hgrows₁, htable₂, hall⟩ := ih htable₁ hrest
    exact ⟨hgrows.trans hgrows₁, htable₂, .cons (hkeeps.mono hgrows₁) hall⟩

/-- What is stored of a workbook that has sheets. -/
theorem store_keeps {b : Workbook} (hsheets : b.sheets ≠ [])
    (hdefault : b.styles[0]? = some ({} : Style))
    {book : StoredBook} (h : store b = .ok book) :
    FormatsSound book.formats ∧ List.Forall₂
      (fun s stored => Keeps (b.styles.map .ofStyle) s book.formats stored) b.sheets book.sheets := by
  obtain ⟨stored, hstored, h⟩ := bind_eq_ok_iff.1 h
  have hstyles : ∀ f ∈ b.styles.map CellFormat.ofStyle, f.Sound := by
    rw [List.forall_mem_map]
    exact fun s _ => sound_ofStyle s
  have hformat : formatOf (b.styles.map .ofStyle) 0 = {} := by
    rw [formatOf, List.getElem?_map, hdefault]
    rfl
  have hnew : FormatsSound [{}] := ⟨rfl, by simpa using sound_default⟩
  obtain ⟨-, htable, hall⟩ := storeSheets_keeps hstyles hformat hnew hstored
  have hne : stored.sheets.isEmpty = false := by
    rw [List.isEmpty_eq_false_iff]
    intro hnil
    rw [hnil, List.forall₂_nil_right_iff] at hall
    exact hsheets hall
  rw [hne] at h
  cases h
  exact ⟨htable, hall⟩

end SheetTemplate.Xlsx
