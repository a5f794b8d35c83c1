import SheetTemplate.Proofs.Slots
import SheetTemplate.Proofs.StoredTable
import SheetTemplate.Proofs.Storing
import SheetTemplate.Proofs.StyleReading

namespace SheetTemplate.Xlsx

open Xml Package Number

theorem length_le_join {l : List String} (h : ∀ s ∈ l, s.toList ≠ []) :
    l.length ≤ (String.join l).toList.length := by
  induction l with
  | nil => exact Nat.zero_le _
  | cons s l ih =>
    rw [List.forall_mem_cons] at h
    have hs := List.length_pos_iff.2 h.1
    have hl := ih h.2
    rw [String.join_cons, String.toList_append, List.length_append, List.length_cons]
    omega

theorem length_le_join_of_mem {s : String} {l : List String} (h : s ∈ l) :
    s.toList.length ≤ (String.join l).toList.length := by
  rw [String.toList_join, List.flatMap_def]
  exact (List.sublist_flatten_of_mem (List.mem_map_of_mem h)).length_le

theorem length_join_le_element (name : String) (attributes : List (String × String))
    (inner : List String) :
    (String.join inner).toList.length ≤ (element name attributes inner).toList.length := by
  rw [toList_element]
  split
  case isTrue h =>
    rw [List.isEmpty_iff.1 h]
    exact Nat.zero_le _
  case isFalse =>
    simp only [List.length_cons, List.length_append]
    omega

theorem element_ne_nil (name : String) (attributes : List (String × String)) (inner : List String) :
    (element name attributes inner).toList ≠ [] := by
  rw [toList_element]
  exact List.cons_ne_nil _ _

theorem length_le_document (root : String) :
    root.toList.length ≤ (document root).toList.length := by
  unfold document
  rw [String.toList_append, List.length_append]
  exact Nat.le_add_left _ _

theorem length_le_stringsPart (texts : List String) :
    texts.length ≤ (stringsPart texts).toList.length := by
  have hitems : ∀ s ∈ texts.map stringItem, s.toList ≠ [] := by
    rw [List.forall_mem_map]
    intro s _
    unfold stringItem
    split <;> exact element_ne_nil _ _ _
  calc texts.length = (texts.map stringItem).length := List.length_map _ |>.symm
    _ ≤ (String.join (texts.map stringItem)).toList.length := length_le_join hitems
    _ ≤ _ := length_join_le_element _ _ _
    _ ≤ _ := length_le_document _

theorem length_le_stylesPart (formats : List CellFormat) :
    formats.length ≤ (stylesPart formats).toList.length := by
  have hfonts : ∀ s ∈ formats.map fontElement, s.toList ≠ [] := by
    rw [List.forall_mem_map]
    exact fun _ _ => element_ne_nil _ _ _
  calc formats.length = (formats.map fontElement).length := List.length_map _ |>.symm
    _ ≤ (String.join (formats.map fontElement)).toList.length := length_le_join hfonts
    _ ≤ (counted "fonts" (formats.map fontElement)).toList.length := length_join_le_element _ _ _
    _ ≤ _ := length_le_join_of_mem (List.mem_append_right _ List.mem_cons_self)
    _ ≤ _ := length_join_le_element _ _ _
    _ ≤ _ := length_le_document _

theorem length_le_size (s : String) : s.toList.length ≤ s.toUTF8.size := by
  rw [← length_toList, toList_toUTF8]
  exact @length_le_flatMap _ String.utf8EncodeChar (fun _ => String.utf8EncodeChar_ne_nil) s.toList

namespace StoredBook

structure Openable (b : StoredBook) : Prop where
  names : (b.sheets.map (·.name)).Nodup
  table : FormatsSound b.formats
  sheets : ∀ s ∈ b.sheets, s.Sound b.formats.length
  texts : ∀ s ∈ b.texts, isMarkup s = false
  count : b.sheets.length + 6 < 256 ^ 2
  size : b.bytes.size < 256 ^ 4

variable {b : StoredBook}

theorem length_sheetParts (next : Nat) (sheets : List StoredSheet) :
    (sheetParts next sheets).length = sheets.length := by
  induction sheets generalizing next with
  | nil => rfl
  | cons s sheets ih => exact congrArg Nat.succ (ih _)

theorem names_parts (b : StoredBook) :
    b.parts.map (·.1) = fixedNames ++ (List.range b.sheets.length).map sheetPath := by
  have hsheets : (sheetParts 0 b.sheets).zipIdx.map (sheetPath ·.2) =
      (List.range b.sheets.length).map sheetPath := by
    rw [← length_sheetParts 0 b.sheets, List.range_eq_range', ← List.zipIdx_map_snd 0, List.map_map]
    rfl
  unfold parts
  rw [List.map_append, List.map_map, ← hsheets]
  rfl

theorem nodup_parts (b : StoredBook) : (b.parts.map fun p => nameKey p.1).Nodup := by
  have hnames := nodup_names b.sheets.length
  rw [← names_parts, List.map_map] at hnames
  exact hnames

theorem length_parts (b : StoredBook) : b.parts.length = b.sheets.length + 6 := by
  have hnames := congrArg List.length b.names_parts
  rw [List.length_map, List.length_append, List.length_map, List.length_range] at hnames
  rw [hnames, Nat.add_comm]
  rfl

theorem size_part_le {name part : String} (h : (name, part) ∈ b.parts) :
    part.toList.length ≤ b.bytes.size := by
  have hentry : Entry.ofContents name part.toUTF8 ∈ entriesOf b.parts :=
    List.mem_map.2 ⟨_, h, rfl⟩
  exact Nat.le_trans (length_le_size part) (size_data_le hentry)

theorem utf8ByteSize_sheetPath {i : Nat} (h : i + 1 < 256 ^ 2) :
    (sheetPath i).utf8ByteSize < 256 ^ 2 := by
  have hdigits : (natText (i + 1)).utf8ByteSize ≤ 5 := by
    have hlength : (natDigits (i + 1)).length ≤ 5 :=
      (Nat.length_toDigits_le_iff (by decide) (by decide)).2 (Nat.lt_of_lt_of_le h (by decide))
    have hbytes := length_toList (natText (i + 1)).toUTF8
    rw [toList_toUTF8, natText, String.toList_ofList, utf8_natDigits, List.length_map] at hbytes
    exact Nat.le_trans (Nat.le_of_eq hbytes.symm) hlength
  have hpath : (sheetPath i).utf8ByteSize =
      "xl/".utf8ByteSize + ("worksheets/sheet".utf8ByteSize + (natText (i + 1)).utf8ByteSize +
        ".xml".utf8ByteSize) :=
    String.utf8ByteSize_append.trans (congrArg _ (String.utf8ByteSize_append.trans
      (congrArg (· + _) String.utf8ByteSize_append)))
  have hends : "xl/".utf8ByteSize = 3 ∧ "worksheets/sheet".utf8ByteSize = 16 ∧
      ".xml".utf8ByteSize = 4 := by decide
  omega

theorem read?_bytes (h : b.Openable) : Package.read? b.bytes = some (entriesOf b.parts) := by
  have hentries : entriesOf b.parts =
      (b.parts.map fun p => (p.1, p.2.toUTF8)).map fun p => .ofContents p.1 p.2 := by
    rw [List.map_map]
    rfl
  have hnames : ∀ name ∈ b.parts.map (·.1), name.utf8ByteSize < 256 ^ 2 := by
    rw [names_parts, List.forall_mem_append, List.forall_mem_map]
    refine ⟨by decide, fun i hi => utf8ByteSize_sheetPath ?_⟩
    have := List.mem_range.1 hi
    have := h.count
    omega
  have hsize := h.size
  unfold bytes at hsize ⊢
  change Package.read? (Package.write (entriesOf b.parts)) = _
  change (Package.write (entriesOf b.parts)).size < _ at hsize
  rw [hentries] at hsize ⊢
  refine read?_write_ofContents ?_ ?_ hsize
  · rw [List.forall_mem_map]
    rw [List.forall_mem_map] at hnames
    exact hnames
  · rw [List.length_map, length_parts]
    exact h.count

end StoredBook

def Content.text? : Content → Option String
  | .text s => some s
  | _ => none

def textsOf (cells : List (CellRef × StoredCell)) : List String :=
  cells.filterMap fun e => e.2.content.text?

theorem map_numbered (next : Nat) (cells : List (CellRef × StoredCell)) :
    (numbered next cells).map (fun p => (p.place, p.cell)) = cells := by
  induction cells generalizing next with
  | nil => rfl
  | cons e cells ih => exact congrArg (e :: ·) (ih _)

theorem nextAfter_eq (next : Nat) (cells : List (CellRef × StoredCell)) :
    nextAfter next cells = next + (textsOf cells).length := by
  have hsum : (cells.map fun p => p.2.content.texts).sum = (textsOf cells).length := by
    induction cells with
    | nil => rfl
    | cons e cells ih =>
      rw [List.map_cons, List.sum_cons, ih]
      unfold textsOf
      rw [List.filterMap_cons]
      cases e.2.content <;> simp [Content.texts, Content.text?, Nat.add_comm]
  rw [nextAfter, hsum]

theorem getElem?_textsOf {next : Nat} {cells : List (CellRef × StoredCell)} {p : PlacedCell}
    (hp : p ∈ numbered next cells) {t : String} (ht : p.cell.content = .text t) :
    ∃ i, p.next = next + i ∧ (textsOf cells)[i]? = some t := by
  induction cells generalizing next with
  | nil => cases hp
  | cons e cells ih =>
    obtain ⟨c, cell⟩ := e
    have hhead : textsOf ((c, cell) :: cells) = cell.content.text?.toList ++ textsOf cells := by
      unfold textsOf
      rw [List.filterMap_cons]
      cases cell.content <;> rfl
    have hcount : cell.content.text?.toList.length = cell.content.texts := by
      cases cell.content <;> rfl
    rw [hhead]
    rcases List.mem_cons.1 hp with rfl | hp
    · dsimp only at ht
      rw [ht]
      exact ⟨0, rfl, rfl⟩
    · obtain ⟨i, hi, hget⟩ := ih hp
      refine ⟨cell.content.texts + i, by rw [hi, Nat.add_assoc], ?_⟩
      rw [← hcount, List.getElem?_append_right (Nat.le_add_right _ _), Nat.add_sub_cancel_left, hget]

theorem getElem?_sheetParts {next i : Nat} {sheets : List StoredSheet} {s : StoredSheet}
    (h : sheets[i]? = some s) :
    ∃ before after, (sheetParts next sheets)[i]? = some (sheetPart (next + before.length) s).1 ∧
      sheets.flatMap (fun s => textsOf s.cells.toList) =
        before ++ (textsOf s.cells.toList ++ after) := by
  induction sheets generalizing next i with
  | nil => cases h
  | cons first sheets ih =>
    cases i with
    | zero =>
      cases h
      exact ⟨[], _, rfl, rfl⟩
    | succ i =>
      have hnext : (sheetPart next first).2 = next + (textsOf first.cells.toList).length :=
        (events_sheetPart next first).2.2.trans (nextAfter_eq _ _)
      obtain ⟨before, after, hpart, htexts⟩ := @ih (sheetPart next first).2 i h
      refine ⟨textsOf first.cells.toList ++ before, after, ?_, ?_⟩
      · rw [hnext, Nat.add_assoc, ← List.length_append] at hpart
        rw [sheetParts, List.getElem?_cons_succ]
        exact (hnext ▸ hpart : _)
      · rw [List.flatMap_cons, htexts, List.append_assoc]

namespace StoredBook

variable {b : StoredBook}

theorem texts_eq (b : StoredBook) : b.texts = b.sheets.flatMap fun s => textsOf s.cells.toList :=
  rfl

def strings (b : StoredBook) : Array String := (b.texts.map spelled).toArray

theorem length_texts_le (h : b.Openable) : b.texts.length ≤ greatestNat64 := by
  have hmem : ("xl/sharedStrings.xml", stringsPart b.texts) ∈ b.parts :=
    List.mem_append_left _ (by simp)
  have hsize := h.size
  have hpart := size_part_le hmem
  have hle := length_le_stringsPart b.texts
  unfold greatestNat64
  omega

/-- The part of a sheet, as both readers find it. Its cells are those of the sheet, and their texts
stand under their numbers. -/
theorem exists_cells (h : b.Openable) {i : Nat} {s : StoredSheet} (hs : b.sheets[i]? = some s) :
    ∃ cells : List PlacedCell, cells.map (fun p => (p.place, p.cell)) = s.cells.toList ∧
      (∀ p ∈ cells, p.TextIn b.strings) ∧
      findEvents? (entriesOf b.parts) (sheetPath i) = some (some (sheetEvents cells s.merges)) ∧
      readEvents? (entriesOf b.parts) (sheetPath i) = .ok (some (sheetEvents cells s.merges)) := by
  obtain ⟨before, after, hpart, htexts⟩ := @getElem?_sheetParts 0 i b.sheets s hs
  rw [Nat.zero_add] at hpart
  obtain ⟨hlenient, hstrict, -⟩ := events_sheetPart before.length s
  have hmem : (sheetPath i, (sheetPart before.length s).1) ∈ b.parts := by
    refine List.mem_append_right _ (List.mem_map.2 ⟨((sheetPart before.length s).1, i), ?_, rfl⟩)
    exact List.mem_zipIdx_iff_getElem?.2 hpart
  refine ⟨numbered before.length s.cells.toList, map_numbered _ _, fun p hp t ht => ?_, ?_, ?_⟩
  · obtain ⟨j, hnext, hget⟩ := getElem?_textsOf hp ht
    have htext : b.texts[p.next]? = some t := by
      rw [texts_eq, htexts, hnext, List.getElem?_append_right (Nat.le_add_right _ _),
        Nat.add_sub_cancel_left, List.getElem?_append_left (List.getElem?_eq_some_iff.1 hget).1, hget]
    have hlt := (List.getElem?_eq_some_iff.1 htext).1
    have hcount := length_texts_le h
    refine ⟨by omega, ?_⟩
    rw [strings, List.getElem?_toArray, List.getElem?_map, htext]
    rfl
  · rw [findEvents?_entriesOf b.nodup_parts hmem, hlenient]
  · rw [readEvents?_entriesOf b.nodup_parts hmem, hstrict]

end StoredBook

def StoredSheet.entries {α : Type} (s : StoredSheet) (f : StoredCell → Option α) :
    List (CellRef × α) :=
  s.cells.toList.filterMap fun e => (f e.2).map (e.1, ·)

def StoredSheet.contents (s : StoredSheet) : SheetContents where
  values := s.entries (·.content.stored?)
  formulas := s.entries (·.content.formula?)
  styled := s.entries (·.style?)
  merges := s.merges.map fun a => (a.topLeft, a.bottomRight)

theorem Within.small {c : CellRef} (h : Within c) : Small c := by
  have hrow : c.row < 1048576 := h.1
  have hcol : c.col < 16384 := h.2
  exact ⟨by omega, by omega⟩

section

variable {s : StoredSheet} {n : Nat} {cells : List PlacedCell}
  (h : cells.map (fun p => (p.place, p.cell)) = s.cells.toList) (hs : s.Sound n)

include h hs

theorem fits_of_mem {p : PlacedCell} (hp : p ∈ cells) : Fits n p.place p.cell := by
  refine hs.cells p.place p.cell (Std.TreeMap.mem_toList_iff_getElem?_eq_some.1 ?_)
  rw [← h]
  exact List.mem_map_of_mem hp

omit hs in
theorem rows_of_cells : cells.Pairwise fun p q => p.place.row ≤ q.place.row := by
  have hordered : s.cells.toList.Pairwise fun a b => compare a.1 b.1 = .lt :=
    Std.TreeMap.ordered_keys_toList
  rw [← h, List.pairwise_map] at hordered
  refine hordered.imp fun hlt => ?_
  rcases CellRef.compare_eq_lt_iff.1 hlt with hrow | ⟨hrow, -⟩
  · exact Nat.le_of_lt hrow
  · exact Nat.le_of_eq hrow

omit hs in
theorem entries_cells {α : Type} (f : StoredCell → Option α) :
    s.entries f = cells.filterMap fun p => (f p.cell).map (p.place, ·) := by
  rw [StoredSheet.entries, ← h, List.filterMap_map]
  rfl

theorem values?_cells {strings : Array String} (htexts : ∀ p ∈ cells, p.TextIn strings) :
    values? strings (sheetEvents cells s.merges) = some s.contents.values := by
  rw [values?_sheetEvents (fun p hp => (fits_of_mem h hs hp).place.small) (rows_of_cells h) htexts,
    ← entries_cells h (·.content.stored?)]
  rfl

theorem formulas?_cells : formulas? (sheetEvents cells s.merges) = some s.contents.formulas := by
  rw [formulas?_sheetEvents (fun p hp => (fits_of_mem h hs hp).place.small) (rows_of_cells h),
    ← entries_cells h (·.content.formula?)]
  rfl

theorem readStyledCells_cells (hn : n ≤ greatestNat64) :
    readStyledCells (sheetEvents cells s.merges) = .ok s.contents.styled := by
  rw [readStyledCells_sheetEvents (fun p hp => (fits_of_mem h hs hp).place.small)
    (fun p hp => Nat.le_trans (Nat.le_of_lt (fits_of_mem h hs hp).format) hn),
    show cells.filterMap PlacedCell.styled = s.entries (·.style?) from (entries_cells h _).symm]
  rfl

omit h in
theorem merges?_cells : merges? (sheetEvents cells s.merges) = some s.contents.merges :=
  merges?_sheetEvents fun a ha => ⟨(hs.merges a ha).1.small, (hs.merges a ha).2.small⟩

end

namespace StoredBook

variable {b : StoredBook}

def targets (b : StoredBook) : List (String × String) :=
  (List.range b.sheets.length).map (fun i => ("worksheet", sheetTarget i)) ++
    [("styles", "styles.xml"), ("sharedStrings", "sharedStrings.xml")]

def listing (b : StoredBook) : List (String × String) :=
  b.sheets.zipIdx.map fun p => (p.1.name, sheetPath p.2)

theorem length_formats_le (h : b.Openable) : b.formats.length + 1 ≤ greatestNat64 := by
  have hmem : ("xl/styles.xml", stylesPart b.formats) ∈ b.parts :=
    List.mem_append_left _ (by simp)
  have hsize := h.size
  have hpart := size_part_le hmem
  have hle := length_le_stylesPart b.formats
  unfold greatestNat64
  omega

theorem unmarked_sheetTarget (i : Nat) : unmarked (sheetTarget i).toList = true := by
  have hdigits : unmarked (natDigits (i + 1)) = true :=
    unmarked_number fun c hc => .inr (.inr (isDigit_of_mem_natDigits hc))
  have hfixed : unmarked "worksheets".toList = true ∧ unmarked ['/'] = true ∧
      unmarked "sheet".toList = true ∧ unmarked ".xml".toList = true := by decide
  unfold unmarked at *
  rw [toList_sheetTarget]
  simp only [List.all_append, List.all_cons, List.all_nil, Bool.and_true] at *
  simp only [hdigits, hfixed, Bool.and_self]

theorem unmarked_targets (b : StoredBook) : ∀ t ∈ b.targets, unmarked t.2.toList = true := by
  unfold targets
  rw [List.forall_mem_append, List.forall_mem_map]
  exact ⟨fun i _ => unmarked_sheetTarget i, by decide⟩

theorem mem_targets {i : Nat} (h : i < b.sheets.length) :
    (("worksheet", sheetTarget i), i) ∈ b.targets.zipIdx := by
  rw [List.mem_zipIdx_iff_getElem?, targets, List.getElem?_append_left (by simpa using h),
    List.getElem?_map, List.getElem?_range h]
  rfl

theorem nodup_zipIdx {α β : Type} {f : Nat → β} (hf : Function.Injective f) (l : List α) :
    (l.zipIdx.map fun p => f p.2).Nodup := by
  have hmap : l.zipIdx.map (fun p => f p.2) = (List.range' 0 l.length).map f := by
    rw [← List.zipIdx_map_snd 0 l, List.map_map]
    rfl
  rw [hmap]
  exact (List.nodup_range' 1).map hf

theorem relationKey_inj : Function.Injective fun i => utf8 (escapedValue (relationId i).toList) := by
  intro i j h
  have hvalue := congrArg (value? .lenient) h
  rw [value?_escapedValue, value?_escapedValue, String.ofList_toList, String.ofList_toList] at hvalue
  exact relationId_inj (Option.some.inj hvalue)

/-- The part of a sheet is found by the id of its relationship, in both ways of reading. -/
theorem lookup_targets {i : Nat} (hi : i < b.sheets.length) :
    (b.targets.zipIdx.map relationOf).reverse.lookup (utf8 (escapedValue (relationId i).toList)) =
        some (sheetTarget i) ∧
      (b.targets.zipIdx.map fun p => (relationId p.2, p.1.2)).reverse.lookup (relationId i) =
        some (sheetTarget i) := by
  have hlenient : (utf8 (escapedValue (relationId i).toList), sheetTarget i) ∈
      b.targets.zipIdx.map relationOf := List.mem_map.2 ⟨_, mem_targets hi, rfl⟩
  have hstrict : (relationId i, sheetTarget i) ∈
      b.targets.zipIdx.map fun p => (relationId p.2, p.1.2) :=
    List.mem_map.2 ⟨_, mem_targets hi, rfl⟩
  constructor
  · have hkeys : (b.targets.zipIdx.map fun p => utf8 (escapedValue (relationId p.2).toList)).Nodup :=
      nodup_zipIdx relationKey_inj _
    have hfst (p : (String × String) × Nat) :
        (relationOf p).1 = utf8 (escapedValue (relationId p.2).toList) := rfl
    refine lookup_reverse_of_mem ?_ hlenient
    simpa only [List.map_map, Function.comp_def, hfst] using hkeys
  · have hkeys : (b.targets.zipIdx.map fun p => relationId p.2).Nodup :=
      nodup_zipIdx (fun _ _ => relationId_inj) _
    refine lookup_reverse_of_mem ?_ hstrict
    rw [List.map_map]
    exact hkeys

/-- The outline is read as it was written. -/
theorem ofEntries?_parts (h : b.Openable) :
    Outline.ofEntries? (entriesOf b.parts) = some ⟨b.strings, b.listing⟩ := by
  have hfind {name part : String} (hmem : (name, part) ∈ b.parts) :=
    findEvents?_entriesOf b.nodup_parts hmem
  have hstrings := @hfind "xl/sharedStrings.xml" (stringsPart b.texts)
    (List.mem_append_left _ (by simp))
  have hstyles := @hfind "xl/styles.xml" (stylesPart b.formats) (List.mem_append_left _ (by simp))
  have hrelations := @hfind "xl/_rels/workbook.xml.rels" (relationsPart b.targets)
    (List.mem_append_left _ (by simp [targets]))
  have hworkbook := @hfind "xl/workbook.xml" (workbookPart (b.sheets.map (·.name)))
    (List.mem_append_left _ (by simp))
  have hitems : ∀ s ∈ b.texts, s ≠ "" ∧ isMarkup s = false := by
    refine fun t ht => ⟨?_, h.texts t ht⟩
    rw [texts_eq, List.mem_flatMap] at ht
    obtain ⟨s, hs, ht⟩ := ht
    obtain ⟨⟨c, cell⟩, hcell, htext⟩ := List.mem_filterMap.1 ht
    have hfits := (h.sheets s hs).cells c cell (Std.TreeMap.mem_toList_iff_getElem?_eq_some.1 hcell)
    refine hfits.text t ?_
    dsimp only at htext
    cases hcontent : cell.content <;> rw [hcontent] at htext <;> cases htext
    rfl
  have hrels : ∀ i < (b.sheets.map (·.name)).length, (b.targets.zipIdx.map relationOf).reverse.lookup
      (utf8 (escapedValue (relationId i).toList)) = some (sheetTarget i) := by
    intro i hi
    rw [List.length_map] at hi
    exact (lookup_targets hi).1
  have hlisting : (b.sheets.map (·.name)).zipIdx.map (fun p => (p.1, sheetPath p.2)) = b.listing := by
    rw [listing, List.zipIdx_map, List.map_map]
    rfl
  unfold Outline.ofEntries?
  simp only [hstrings, hstyles, hrelations, hworkbook, Option.bind_eq_bind, Option.bind_some,
    sharedStrings?_document hitems _ (Nat.lt_succ_self _), stylesReadable_stylesPart,
    relationships?_document b.unmarked_targets, sheets?_document hrels _ (Nat.lt_succ_self _),
    hlisting]
  rfl

theorem mapM_eq_some {α β : Type} {f : α → Option β} {g : α → β} {l : List α}
    (h : ∀ a ∈ l, f a = some (g a)) : l.mapM f = some (l.map g) := by
  induction l with
  | nil => rfl
  | cons a l ih =>
    rw [List.forall_mem_cons] at h
    rw [List.mapM_cons, h.1, ih h.2]
    rfl

def corners (b : StoredBook) : List (String × (CellRef × CellRef)) :=
  b.sheets.flatMap fun s => s.contents.merges.map (s.name, ·)

theorem allMerges?_parts (h : b.Openable) :
    allMerges? (entriesOf b.parts) ⟨b.strings, b.listing⟩ = some b.corners := by
  unfold allMerges? listing
  rw [List.mapM_map]
  refine Option.bind_eq_some_iff.2
    ⟨_, mapM_eq_some (g := fun p => p.1.contents.merges.map (p.1.name, ·)) fun p hp => ?_, ?_⟩
  · have hs := List.mem_zipIdx_iff_getElem?.1 hp
    obtain ⟨cells, -, -, hevents, -⟩ := exists_cells h hs
    change (findEvents? (entriesOf b.parts) (sheetPath p.2)).bind _ = _
    rw [hevents]
    change (merges? _).bind _ = _
    rw [merges?_cells (h.sheets _ (List.mem_of_getElem? hs))]
    rfl
  have hmap : b.sheets.zipIdx.map (fun p => p.1.contents.merges.map (p.1.name, ·)) =
      b.sheets.map fun s => s.contents.merges.map (s.name, ·) := by
    conv_rhs => rw [← List.zipIdx_map_fst 0 b.sheets, List.map_map]
    rfl
  rw [hmap, corners, List.flatMap_def]
  rfl

def styles (b : StoredBook) : List Style := StyleTree.styles (stylesTree b.formats)

theorem readSheetStyles_eq {entries : List Entry} {targets : List (String × String)}
    {l : List (StoredSheet × Nat)}
    (h : ∀ p ∈ l, targets.reverse.lookup (relationId p.2) = some (sheetTarget p.2) ∧
      ∃ events, readEvents? entries (sheetPath p.2) = .ok (some events) ∧
        readStyledCells events = .ok p.1.contents.styled) :
    readSheetStyles entries targets (l.map fun p => (p.1.name, relationId p.2)) =
      .ok (l.map fun p => (p.1.name, p.1.contents.styled)) := by
  induction l with
  | nil => rfl
  | cons p l ih =>
    rw [List.forall_mem_cons] at h
    obtain ⟨⟨htarget, events, hevents, hstyled⟩, hl⟩ := h
    rw [List.map_cons, readSheetStyles, htarget]
    dsimp only
    rw [targetPart_sheetTarget, hevents]
    change readStyledCells events >>= _ = _
    rw [hstyled]
    change readSheetStyles entries targets _ >>= _ = _
    rw [ih hl]
    rfl

theorem readCellStyles_parts (h : b.Openable) :
    readCellStyles (entriesOf b.parts) =
      .ok ⟨b.styles, b.sheets.map fun s => (s.name, s.contents.styled)⟩ := by
  have hread {name part : String} (hmem : (name, part) ∈ b.parts) :=
    readEvents?_entriesOf b.nodup_parts hmem
  have hstyles := @hread "xl/styles.xml" (stylesPart b.formats) (List.mem_append_left _ (by simp))
  have hrelations := @hread "xl/_rels/workbook.xml.rels" (relationsPart b.targets)
    (List.mem_append_left _ (by simp [targets]))
  have hworkbook := @hread "xl/workbook.xml" (workbookPart (b.sheets.map (·.name)))
    (List.mem_append_left _ (by simp))
  have htable : readStyles (strictEvents (utf8 (stylesPart b.formats).toList)) = .ok b.styles :=
    readStyles_eq ((writes_styles b.formats).spells _) (by decide)
      (readable_tagOf (show areNames [("xmlns", mainNamespace)] = true from rfl))
      (fits_stylesTree b.formats)
  have hnames : (b.sheets.map (·.name)).zipIdx.map (fun p => (p.1, relationId p.2)) =
      b.sheets.zipIdx.map fun p => (p.1.name, relationId p.2) := by
    rw [List.zipIdx_map, List.map_map]
    rfl
  have hsheets := @readSheetStyles_eq (entriesOf b.parts)
    (b.targets.zipIdx.map fun p => (relationId p.2, p.1.2)) b.sheets.zipIdx fun p hp => by
      have hs := List.mem_zipIdx_iff_getElem?.1 hp
      obtain ⟨cells, hcells, -, -, hevents⟩ := exists_cells h hs
      refine ⟨(lookup_targets (List.getElem?_eq_some_iff.1 hs).1).2, _, hevents, ?_⟩
      exact readStyledCells_cells hcells (h.sheets _ (List.mem_of_getElem? hs))
        (Nat.le_of_succ_le (length_formats_le h))
  have hlist : b.sheets.zipIdx.map (fun p => (p.1.name, p.1.contents.styled)) =
      b.sheets.map fun s => (s.name, s.contents.styled) := by
    conv_rhs => rw [← List.zipIdx_map_fst 0 b.sheets, List.map_map]
    rfl
  unfold readCellStyles
  simp only [hstyles, hworkbook, hrelations, ok_bind, htable, pairs_relations, pairs_workbook, hnames,
    hsheets, hlist]
  rfl

def opened (b : StoredBook) : Opened where
  entries := entriesOf b.parts
  outline := ⟨b.strings, b.listing⟩
  merges := b.corners
  styles := ⟨b.styles, b.sheets.map fun s => (s.name, s.contents.styled)⟩

theorem ofBytes_bytes (h : b.Openable) : Opened.ofBytes b.bytes = .ok b.opened := by
  unfold Opened.ofBytes
  rw [read?_bytes h]
  change orUnreadable (Outline.ofEntries? (entriesOf b.parts)) >>= _ = _
  rw [ofEntries?_parts h]
  change orUnreadable (allMerges? (entriesOf b.parts) ⟨b.strings, b.listing⟩) >>= _ = _
  rw [allMerges?_parts h]
  change readCellStyles (entriesOf b.parts) >>= _ = _
  rw [readCellStyles_parts h]
  rfl

theorem filterMap_named {name : String} {l : List StoredSheet} (h : ∀ x ∈ l, x.name ≠ name) :
    (l.flatMap fun x => x.contents.merges.map (x.name, ·)).filterMap
      (fun (n, m) => if n = name then some m else none) = [] := by
  rw [List.filterMap_eq_nil_iff]
  simp only [List.forall_mem_flatMap, List.forall_mem_map]
  exact fun x hx m _ => if_neg (h x hx)

/-- Among the merged regions of all sheets are those of one. -/
theorem filterMap_corners (h : (b.sheets.map (·.name)).Nodup) {s : StoredSheet}
    (hs : s ∈ b.sheets) :
    b.corners.filterMap (fun (n, m) => if n = s.name then some m else none) = s.contents.merges := by
  obtain ⟨before, after, hsplit⟩ := List.append_of_mem hs
  rw [hsplit, List.map_append, List.map_cons, List.nodup_append, List.nodup_cons] at h
  obtain ⟨-, ⟨hafter, -⟩, hbefore⟩ := h
  have hown : (s.contents.merges.map (s.name, ·)).filterMap
      (fun (n, m) => if n = s.name then some m else none) = s.contents.merges := by
    rw [List.filterMap_map]
    exact (List.filterMap_congr fun m _ => if_pos rfl).trans List.filterMap_some
  unfold corners
  rw [hsplit, List.flatMap_append, List.flatMap_cons, List.filterMap_append, List.filterMap_append,
    hown, filterMap_named, filterMap_named, List.nil_append, List.append_nil]
  · exact fun x hx heq => hafter (heq ▸ List.mem_map_of_mem hx)
  · exact fun x hx heq => hbefore _ (List.mem_map_of_mem hx) _ List.mem_cons_self heq

/-- Every sheet has the contents that were stored of it. -/
theorem contents?_opened (h : b.Openable) {s : StoredSheet} (hs : s ∈ b.sheets) :
    b.opened.contents? s.name = some s.contents := by
  obtain ⟨i, hi⟩ := List.mem_iff_getElem?.1 hs
  obtain ⟨cells, hcells, htexts, hevents, -⟩ := exists_cells h hi
  have hnames : (b.listing.map (·.1)).Nodup := by
    rw [listing, List.map_map]
    have hnames := h.names
    rw [← List.zipIdx_map_fst 0 b.sheets, List.map_map] at hnames
    exact hnames
  have hpart : b.listing.lookup s.name = some (sheetPath i) := by
    refine lookup_of_mem hnames (List.mem_map.2 ⟨(s, i), ?_, rfl⟩)
    exact List.mem_zipIdx_iff_getElem?.2 hi
  have hfound : (findPart? (entriesOf b.parts) (sheetPath i)).bind partEvents? =
      some (sheetEvents cells s.merges) := by
    unfold findEvents? at hevents
    split at hevents
    case h_1 => cases hevents
    case h_2 e he =>
      rw [he]
      obtain ⟨events, hparts, heq⟩ := Option.map_eq_some_iff.1 hevents
      cases heq
      exact hparts
  have hstyled : b.opened.styles.find s.name = s.contents.styled := by
    have hmem : (s.name, s.contents.styled) ∈ b.sheets.map fun s => (s.name, s.contents.styled) :=
      List.mem_map_of_mem hs
    unfold CellStyles.find
    rw [opened, lookup_reverse_of_mem ?_ hmem, Option.getD_some]
    rw [List.map_map]
    exact h.names
  obtain ⟨e, he, hparts⟩ := Option.bind_eq_some_iff.1 hfound
  have hsound := h.sheets s hs
  unfold Opened.contents?
  refine Option.bind_eq_some_iff.2 ⟨_, hpart, Option.bind_eq_some_iff.2 ⟨e, he, ?_⟩⟩
  refine Option.bind_eq_some_iff.2 ⟨_, hparts, Option.bind_eq_some_iff.2 ⟨_,
    values?_cells hcells hsound htexts, Option.bind_eq_some_iff.2 ⟨_,
      formulas?_cells hcells hsound, ?_⟩⟩⟩
  rw [hstyled, opened, filterMap_corners h.names hs]
  rfl

end StoredBook

end SheetTemplate.Xlsx
