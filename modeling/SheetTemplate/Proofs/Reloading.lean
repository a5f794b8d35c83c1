import SheetTemplate.Proofs.AllOrNothing
import SheetTemplate.Proofs.BookRun
import SheetTemplate.Proofs.Reopening

namespace SheetTemplate.Xlsx

open Number

section

variable {α : Type} (s : StoredSheet) (f : StoredCell → Option α)

theorem mem_entries {c : CellRef} {a : α} :
    (c, a) ∈ s.entries f ↔ ∃ cell, s.cells[c]? = some cell ∧ f cell = some a := by
  unfold StoredSheet.entries
  rw [List.mem_filterMap]
  constructor
  · rintro ⟨⟨c', cell⟩, hmem, heq⟩
    obtain ⟨a', ha, heq⟩ := Option.map_eq_some_iff.1 heq
    cases heq
    exact ⟨cell, Std.TreeMap.mem_toList_iff_getElem?_eq_some.1 hmem, ha⟩
  · rintro ⟨cell, hcell, ha⟩
    exact ⟨(c, cell), Std.TreeMap.mem_toList_iff_getElem?_eq_some.2 hcell, by rw [ha]; rfl⟩

theorem nodup_entries : ((s.entries f).map (·.1)).Nodup := by
  have hkeys : s.cells.toList.Pairwise fun a b => ¬ compare a.1 b.1 = .eq :=
    Std.TreeMap.distinct_keys_toList
  refine List.pairwise_map.2 (List.Pairwise.filterMap _ (fun a b hab x hx y hy => ?_) hkeys)
  obtain ⟨v, -, rfl⟩ := Option.map_eq_some_iff.1 hx
  obtain ⟨w, -, rfl⟩ := Option.map_eq_some_iff.1 hy
  exact fun heq => hab (Std.LawfulEqCmp.compare_eq_iff_eq.2 heq)

theorem lookup_entries (c : CellRef) : (s.entries f).lookup c = s.cells[c]?.bind f := by
  cases hcell : s.cells[c]?.bind f with
  | some a =>
    obtain ⟨cell, hc, ha⟩ := Option.bind_eq_some_iff.1 hcell
    exact lookup_of_mem (nodup_entries s f) ((mem_entries s f).2 ⟨cell, hc, ha⟩)
  | none =>
    rw [List.lookup_eq_none_iff]
    rintro ⟨c', a⟩ hmem
    obtain ⟨cell, hc, ha⟩ := (mem_entries s f).1 hmem
    rw [bne_iff_ne]
    rintro rfl
    rw [hc, Option.bind_some, ha] at hcell
    cases hcell

end

def setValues (s : Sheet) (l : List (CellRef × CellValue)) : Sheet :=
  l.foldl (fun s e => s.setValue e.1 e.2) s

theorem valueAt_setValues {l : List (CellRef × CellValue)} (hl : (l.map (·.1)).Nodup) (s : Sheet)
    (c : CellRef) : (setValues s l).valueAt c = (l.lookup c).getD (s.valueAt c) := by
  induction l generalizing s with
  | nil => rfl
  | cons e l ih =>
    rw [List.map_cons, List.nodup_cons] at hl
    refine (ih hl.2 (s.setValue e.1 e.2)).trans ?_
    rw [Sheet.valueAt_setValue, List.lookup_cons]
    by_cases hc : e.1 = c
    · rw [if_pos hc, ← hc, lookup_of_not_mem hl.1, beq_self_eq_true]
      rfl
    · rw [if_neg hc, beq_false_of_ne (Ne.symm hc)]

theorem frame_setValues (l : List (CellRef × CellValue)) (s : Sheet) :
    (∀ c, (setValues s l).styleAt c = s.styleAt c) ∧ (setValues s l).merges = s.merges ∧
      (setValues s l).name = s.name := by
  induction l generalizing s with
  | nil => exact ⟨fun _ => rfl, rfl, rfl⟩
  | cons e l ih =>
    obtain ⟨hstyle, hmerges, hname⟩ := ih (s.setValue e.1 e.2)
    exact ⟨fun c => (hstyle c).trans (Sheet.styleAt_setValue ..), hmerges, hname⟩

def setStyles (ids : Array Nat) (s : Sheet) (l : List (CellRef × Nat)) : Sheet :=
  l.foldl (fun s e => if ids[e.2]?.getD 0 = 0 then s else s.setStyleAt (ids[e.2]?.getD 0) e.1) s

theorem styleAt_setStyleAt (s : Sheet) (id : Nat) (pos c : CellRef) :
    (s.setStyleAt id pos).styleAt c = if pos = c then id else s.styleAt c := by
  unfold Sheet.styleAt Sheet.cellAt
  rw [Sheet.getElem?_setStyleAt]
  split <;> rfl

theorem styleAt_setStyles {ids : Array Nat} {l : List (CellRef × Nat)} (hl : (l.map (·.1)).Nodup)
    (s : Sheet) (c : CellRef) :
    (setStyles ids s l).styleAt c =
      match l.lookup c with
      | some i => if ids[i]?.getD 0 = 0 then s.styleAt c else ids[i]?.getD 0
      | none => s.styleAt c := by
  induction l generalizing s with
  | nil => rfl
  | cons e l ih =>
    rw [List.map_cons, List.nodup_cons] at hl
    refine (ih hl.2 _).trans ?_
    rw [List.lookup_cons]
    by_cases hc : e.1 = c
    · rw [← hc, lookup_of_not_mem hl.1, beq_self_eq_true]
      dsimp only
      split
      case isTrue => rfl
      case isFalse => rw [styleAt_setStyleAt, if_pos rfl]
    · have hkept : (if ids[e.2]?.getD 0 = 0 then s else s.setStyleAt (ids[e.2]?.getD 0) e.1).styleAt c =
          s.styleAt c := by
        split
        case isTrue => rfl
        case isFalse => rw [styleAt_setStyleAt, if_neg hc]
      rw [hkept, beq_false_of_ne (Ne.symm hc)]

theorem frame_setStyles (ids : Array Nat) (l : List (CellRef × Nat)) (s : Sheet) :
    (∀ c, (setStyles ids s l).valueAt c = s.valueAt c) ∧ (setStyles ids s l).merges = s.merges ∧
      (setStyles ids s l).name = s.name := by
  induction l generalizing s with
  | nil => exact ⟨fun _ => rfl, rfl, rfl⟩
  | cons e l ih =>
    unfold setStyles
    rw [List.foldl_cons]
    split
    case isTrue => exact ih s
    case isFalse =>
      obtain ⟨hvalue, hmerges, hname⟩ := ih (s.setStyleAt (ids[e.2]?.getD 0) e.1)
      exact ⟨fun c => (hvalue c).trans (Sheet.valueAt_setStyleAt ..), hmerges, hname⟩

theorem foldl_merge (l : List (CellRef × CellRef)) (s : Sheet) :
    l.foldl (fun s (a, b) => s.merge (.ofCorners a b)) s =
      { s with merges := s.merges ++ l.map fun p => .ofCorners p.1 p.2 } := by
  induction l generalizing s with
  | nil => simp
  | cons p l ih =>
    rw [List.foldl_cons, ih]
    simp [Sheet.merge]

theorem fill_eq (c : SheetContents) (ids : Array Nat) (s : Sheet) :
    c.fill ids s =
      let filled := setStyles ids (setValues (setValues s (c.values.map fun e => (e.1, e.2.cellValue)))
        (c.formulas.map fun e => (e.1, formulaValue e.2))) c.styled
      { filled with merges := filled.merges ++ c.merges.map fun p => .ofCorners p.1 p.2 } := by
  unfold SheetContents.fill setValues setStyles
  rw [foldl_merge, List.foldl_map, List.foldl_map]

theorem lookup_map {α β γ : Type} [BEq α] (f : β → γ) (l : List (α × β)) (a : α) :
    (l.map fun e => (e.1, f e.2)).lookup a = (l.lookup a).map f := by
  induction l with
  | nil => rfl
  | cons e l ih =>
    rw [List.map_cons, List.lookup_cons, List.lookup_cons, ih]
    split <;> rfl

def Content.reread (content : Content) : CellValue :=
  match content.formula? with
  | some f => formulaValue f
  | none => (content.stored?.map StoredValue.cellValue).getD .empty

def styleId (ids : Array Nat) (format : Nat) : Nat :=
  if format = 0 then 0 else ids[format]?.getD 0

section

variable (s : StoredSheet) (ids : Array Nat)

def StoredSheet.reread : Sheet := s.contents.fill ids { name := s.name }

theorem name_reread : (s.reread ids).name = s.name := by
  unfold StoredSheet.reread
  rw [fill_eq]
  exact (frame_setStyles _ _ _).2.2.trans ((frame_setValues _ _).2.2.trans (frame_setValues _ _).2.2)

theorem valueAt_reread (c : CellRef) :
    (s.reread ids).valueAt c = (s.cellAt c).content.reread := by
  have hvalues : ((s.contents.values.map fun e => (e.1, e.2.cellValue)).map (·.1)).Nodup := by
    rw [List.map_map]
    exact nodup_entries s (·.content.stored?)
  have hformulas : ((s.contents.formulas.map fun e => (e.1, formulaValue e.2)).map (·.1)).Nodup := by
    rw [List.map_map]
    exact nodup_entries s (·.content.formula?)
  have hvalue : s.contents.values.lookup c = s.cells[c]?.bind (·.content.stored?) :=
    lookup_entries s (·.content.stored?) c
  have hformula : s.contents.formulas.lookup c = s.cells[c]?.bind (·.content.formula?) :=
    lookup_entries s (·.content.formula?) c
  unfold StoredSheet.reread
  rw [fill_eq]
  refine ((frame_setStyles _ _ _).1 c).trans ?_
  rw [valueAt_setValues hformulas, valueAt_setValues hvalues, lookup_map, lookup_map, hvalue, hformula]
  unfold StoredSheet.cellAt Content.reread
  cases s.cells[c]? with
  | none => rfl
  | some cell =>
    simp only [Option.bind_some, Option.getD_some]
    cases cell.content.formula? <;> rfl

theorem styleAt_reread (c : CellRef) :
    (s.reread ids).styleAt c = styleId ids (s.cellAt c).format := by
  have hstyled : s.contents.styled.lookup c = s.cells[c]?.bind (·.style?) :=
    lookup_entries s (·.style?) c
  have hplain : (setValues (setValues { name := s.name }
      (s.contents.values.map fun e => (e.1, e.2.cellValue)))
        (s.contents.formulas.map fun e => (e.1, formulaValue e.2))).styleAt c = 0 :=
    ((frame_setValues _ _).1 c).trans ((frame_setValues _ _).1 c)
  unfold StoredSheet.reread
  rw [fill_eq]
  have hnodup : (s.contents.styled.map (·.1)).Nodup := nodup_entries s (·.style?)
  refine (styleAt_setStyles hnodup _ c).trans ?_
  rw [hstyled, hplain]
  unfold StoredSheet.cellAt styleId
  cases s.cells[c]? with
  | none => rfl
  | some cell =>
    simp only [Option.bind_some, Option.getD_some, StoredCell.style?]
    by_cases hdefault : cell.format = 0
    · simp [hdefault]
    · simp only [hdefault, if_false]
      split
      case isTrue h => exact h.symm
      case isFalse => rfl

theorem ofCorners_self {a : Area} (h : a.left ≤ a.right) (h' : a.top ≤ a.bottom) :
    Area.ofCorners a.topLeft a.bottomRight = a := by
  unfold Area.ofCorners Area.ofBounds Area.topLeft Area.bottomRight
  simp [h, h']

theorem merges_reread (h : ∀ a ∈ s.merges, a.left ≤ a.right ∧ a.top ≤ a.bottom) :
    (s.reread ids).merges = s.merges := by
  have hcorners : s.contents.merges.map (fun p => Area.ofCorners p.1 p.2) = s.merges := by
    change (s.merges.map _).map _ = _
    rw [List.map_map]
    exact (List.map_congr_left fun a ha => ofCorners_self (h a ha).1 (h a ha).2).trans (List.map_id _)
  unfold StoredSheet.reread
  rw [fill_eq, hcorners]
  dsimp only
  rw [(frame_setStyles _ _ _).2.1, (frame_setValues _ _).2.1, (frame_setValues _ _).2.1]
  rfl

end

theorem look_eq_of_same {a b : Style} (h : a.Same b) : look a = look b := by
  rw [h.1]
  rfl

/-- Every style gets a place in the table of the workbook, where one that is the same stands. -/
theorem addStyles_spec (book : Workbook) (l : List Style) :
    (addStyles book l).2.sheets = book.sheets ∧ book.styles <+: (addStyles book l).2.styles ∧
      ∀ (i : Nat) (style : Style), l[i]? = some style →
        ∃ (id : Nat) (shown : Style), (addStyles book l).1[i]? = some id ∧
          (addStyles book l).2.styles[id]? = some shown ∧ shown.Same style := by
  induction l generalizing book with
  | nil => exact ⟨rfl, List.prefix_refl _, by rintro i style ⟨⟩⟩
  | cons style l ih =>
    obtain ⟨hsheets, hgrows, hplaces⟩ := ih (book.addStyle style).2
    refine ⟨hsheets, (Canvas.prefix_addToTable book.styles style).trans hgrows, fun i s hs => ?_⟩
    cases i with
    | zero =>
      cases hs
      obtain ⟨shown, hshown, hsame⟩ := Workbook.addToTable_same book.styles style
      exact ⟨_, shown, rfl, getElem?_kept hgrows hshown, hsame⟩
    | succ i => exact hplaces i s hs

section

variable {o : Opened} {ids : Array Nat}

/-- A sheet of a new name is added and filled. -/
theorem modifySheet_addSheet {book : Workbook} {name : String}
    (hname : name ∉ book.sheets.map (·.name)) {f : Sheet → Sheet} (hf : ∀ s, (f s).name = s.name) :
    ∃ book', (book.addSheet name).modifySheet name f = .ok book' ∧ book'.styles = book.styles ∧
      book'.sheets = book.sheets ++ [f { name }] ∧ book'.sheet name = .ok (f { name }) := by
  have hnone : ¬ (book.findSheet? name).isSome := by
    rw [Workbook.findSheet?, List.find?_isSome]
    rintro ⟨s, hs, heq⟩
    exact hname (beq_iff_eq.1 heq ▸ List.mem_map_of_mem hs)
  have hadded : (book.addSheet name).sheets = book.sheets ++ ({ name } : Sheet) :: [] := by
    rw [Workbook.addSheet, dif_neg hnone]
  have hstyles : (book.addSheet name).styles = book.styles := by
    rw [Workbook.addSheet, dif_neg hnone]
  have hfound : (book.addSheet name).findSheet? name = some { name } :=
    Workbook.findSheet?_of_split hadded
  have hupdated := Workbook.updateFirst_split hadded f
  have hkept : ({ f { name } with name := name } : Sheet) = f { name } := by
    have hsame := hf { name }
    generalize f { name } = s at hsame
    obtain ⟨n, cells, merges⟩ := s
    dsimp only at hsame
    rw [hsame]
  rw [hkept] at hupdated
  have hmodified : ∃ book', (book.addSheet name).modifySheet name f = .ok book' ∧
      book'.styles = book.styles ∧ book'.sheets = book.sheets ++ [f { name }] := by
    unfold Workbook.modifySheet
    split
    case h_1 => exact ⟨_, rfl, hstyles, hupdated⟩
    case h_2 hmissing =>
      rw [hfound] at hmissing
      cases hmissing
  obtain ⟨book', hok, hstyles', hsheets⟩ := hmodified
  have hsheet := Workbook.sheet_of_split hsheets
  rw [hf { name }] at hsheet
  exact ⟨book', hok, hstyles', hsheets, hsheet⟩

theorem outcome_addSheets {l : List StoredSheet}
    (hcontents : ∀ s ∈ l, o.contents? s.name = some s.contents) {book : Workbook}
    (hnames : (book.sheets.map (·.name) ++ l.map (·.name)).Nodup) (j : Journal) :
    ∃ book' j', outcome (addSheets o ids book (l.map (·.name))) j = (.ok book', j') ∧
      book'.styles = book.styles ∧ book'.sheets = book.sheets ++ l.map (·.reread ids) := by
  induction l generalizing book j with
  | nil => exact ⟨book, j, rfl, rfl, (List.append_nil _).symm⟩
  | cons s l ih =>
    rw [List.forall_mem_cons] at hcontents
    have hfresh : s.name ∉ book.sheets.map (·.name) := by
      rw [List.map_cons, List.nodup_append] at hnames
      exact fun hmem => hnames.2.2 _ hmem _ List.mem_cons_self rfl
    have hf (t : Sheet) : (s.contents.fill ids t).name = t.name := by
      rw [fill_eq]
      exact (frame_setStyles _ _ _).2.2.trans
        ((frame_setValues _ _).2.2.trans (frame_setValues _ _).2.2)
    obtain ⟨book₁, hadded, hstyles, hsheets, hsheet⟩ := modifySheet_addSheet hfresh hf
    have hnames₁ : (book₁.sheets.map (·.name) ++ l.map (·.name)).Nodup := by
      rw [hsheets, List.map_append, List.append_assoc, List.map_singleton, hf]
      exact hnames
    obtain ⟨book', j', hrest, hstyles', hsheets'⟩ := ih hcontents.2 hnames₁
      (j.push ⟨.debug, topic, sheetLine (s.contents.fill ids { name := s.name })⟩)
    refine ⟨book', j', ?_, hstyles'.trans hstyles, ?_⟩
    · rw [List.map_cons, addSheets, hcontents.1]
      refine outcome_bind_eq_ok_iff.2 ⟨s.contents, j, rfl, ?_⟩
      refine outcome_bind_eq_ok_iff.2 ⟨book₁, j, by rw [hadded]; rfl, ?_⟩
      refine outcome_bind_eq_ok_iff.2 ⟨_, j, by rw [hsheet]; rfl, ?_⟩
      exact outcome_bind_eq_ok_iff.2 ⟨(), _, rfl, hrest⟩
    · rw [hsheets', hsheets, List.append_assoc, List.map_cons]
      rfl

end

/-- The package of a stored workbook is read: its sheets as they are stored, and for every format a
style that looks as the format does. -/
theorem read_bytes {b : StoredBook} (h : b.Openable) :
    ∃ book ids, (read b.bytes).result = .ok book ∧ book.sheets = b.sheets.map (·.reread ids) ∧
      ∀ i f, b.formats[i]? = some f →
        ∃ style, book.styles[styleId ids i]? = some style ∧ look style = f.look := by
  obtain ⟨hnew, hgrows, hplaces⟩ := addStyles_spec {} b.styles
  have hlooks : b.styles.map look = b.formats.map CellFormat.look :=
    look_styles h.table.sound (StoredBook.length_formats_le h)
  have hlisting : b.listing.map (·.1) = b.sheets.map (·.name) := by
    rw [StoredBook.listing, List.map_map]
    conv_rhs => rw [← List.zipIdx_map_fst 0 b.sheets, List.map_map]
    rfl
  have hnames : ((addStyles {} b.styles).2.sheets.map (·.name) ++ b.sheets.map (·.name)).Nodup := by
    rw [hnew]
    exact h.names
  obtain ⟨book, j, hbook, hstyles, hsheets⟩ := @outcome_addSheets b.opened
    (addStyles {} b.styles).1.toArray b.sheets (fun s hs => StoredBook.contents?_opened h hs)
    (addStyles {} b.styles).2 hnames #[]
  refine ⟨book, (addStyles {} b.styles).1.toArray, ?_, ?_, fun i f hf => ?_⟩
  · have hread : outcome (read b.bytes) #[] = (.ok book, j) := by
      unfold read
      rw [StoredBook.ofBytes_bytes h]
      refine outcome_bind_eq_ok_iff.2 ⟨b.opened, #[], rfl, ?_⟩
      change outcome (addSheets b.opened (addStyles {} b.styles).1.toArray (addStyles {} b.styles).2
        (b.listing.map (·.1))) #[] = _
      rw [hlisting, hbook]
    unfold Logged.result
    rw [hread]
  · rw [hsheets, hnew]
    rfl
  · unfold styleId
    split
    -- Format 0 is the default style, which stands in every table from the start.
    case isTrue hzero =>
      rw [hzero, h.table.default] at hf
      cases hf
      refine ⟨{}, ?_, rfl⟩
      rw [hstyles]
      exact getElem?_kept hgrows rfl
    case isFalse =>
      have hlook : (b.styles.map look)[i]? = (b.formats.map CellFormat.look)[i]? := by rw [hlooks]
      rw [List.getElem?_map, List.getElem?_map, hf] at hlook
      obtain ⟨style, hstyle, hsame⟩ := Option.map_eq_some_iff.1 hlook
      obtain ⟨id, shown, hid, hshown, hstyled⟩ := hplaces i style hstyle
      refine ⟨shown, ?_, (look_eq_of_same hstyled).trans hsame⟩
      rw [hstyles, List.getElem?_toArray, hid]
      exact hshown

end SheetTemplate.Xlsx
