import SheetTemplate.Proofs.PackageSizes
import SheetTemplate.Proofs.Reloading

namespace SheetTemplate.Xlsx

open Xml

def reloaded : CellValue → CellValue
  | .empty => .empty
  | .text s => if s = "" then .empty else .text (spelled s)
  | .int n => .float (Number.ofInt n)
  | .float x => if Number.isFinite x then .float x else .empty
  | .bool b => .bool b
  | .formula s => if bareFormula s = "" then .float 0 else formulaValue (bareFormula s)

/-- Texts of characters that markup can hold, no part of which looks like a spelled character. -/
structure Plain (s : String) : Prop where
  chars : ∀ c ∈ s.toList,
    (32 ≤ c.toNat ∨ c = '\t' ∨ c = '\n') ∧ c.toNat ≠ 0xFFFE ∧ c.toNat ≠ 0xFFFF
  unspelled : ∀ t, t <:+ s.toList → looksSpelled t = false

def lookAt (b : Workbook) (s : Sheet) (c : CellRef) : Look := look (b.styles[s.styleAt c]?.getD {})

/-- What a sheet is read back as. -/
structure Reloaded (b b' : Workbook) (s s' : Sheet) : Prop where
  name : s'.name = s.name
  value : ∀ c, s'.valueAt c = reloaded (s.valueAt c)
  text : ∀ c t, s.valueAt c = .text t → t ≠ "" → Plain t → s'.valueAt c = .text t
  int : ∀ c n, s.valueAt c = .int n → n.natAbs < 2 ^ 1023 →
    ∃ x, s'.valueAt c = .float x ∧ Number.NearestInt n x
  formula : ∀ c t, s.valueAt c = .formula t → bareFormula t ≠ "" →
    ∃ t', s'.valueAt c = .formula t' ∧ (bareFormula t = t → t.toList.head? ≠ some '=' → t' = t)
  merges : s'.merges = s.merges.filter isRegion
  look : ∀ c, (∀ a ∈ s'.merges, c ∉ a) →
    ∃ style, b'.style (s'.styleAt c) = .ok style ∧ Xlsx.look style = lookAt b s c

/-- Sheets whose merged regions lie between their corners and without texts that are stored as
markup. -/
structure RegularSheet (s : Sheet) : Prop where
  merges : ∀ a ∈ s.merges, a.left ≤ a.right ∧ a.top ≤ a.bottom
  texts : ∀ c t, s.valueAt c = .text t → isMarkup t = false

/-- Workbooks with such sheets, whose table of styles begins with the default style and has colours
of 24 bits. -/
structure Regular (b : Workbook) : Prop where
  sheets_ne_nil : b.sheets ≠ []
  sheets : ∀ s ∈ b.sheets, RegularSheet s
  default : b.styles[0]? = some ({} : Style)
  colors : ∀ s ∈ b.styles, (∀ c ∈ s.font.color, c ≤ 0xFFFFFF) ∧ ∀ c ∈ s.fill, c ≤ 0xFFFFFF

/-- A package counts its parts in 16 bits and its bytes in 32. Six parts are not those of sheets. -/
structure FitsPackage (b : Workbook) (bytes : ByteArray) : Prop where
  count : b.sheets.length + 6 < 256 ^ 2
  size : bytes.size < 256 ^ 4

theorem spell_plain {s : List Char}
    (h : ∀ c ∈ s, (32 ≤ c.toNat ∨ c = '\t' ∨ c = '\n') ∧ c.toNat ≠ 0xFFFE ∧ c.toNat ≠ 0xFFFF)
    (hspelled : ∀ t, t <:+ s → looksSpelled t = false) : spell 0 s = String.ofList s := by
  induction s with
  | nil => rfl
  | cons c s ih =>
    rw [List.forall_mem_cons] at h
    have hchar : spellChar c = c.toString := by
      unfold spellChar
      rw [if_neg]
      intro hspelled
      obtain ⟨hprintable, hlow, hhigh⟩ := h.1
      simp only [Bool.or_eq_true, Bool.and_eq_true, decide_eq_true_eq, bne_iff_ne, ne_eq, hlow, hhigh,
        or_false] at hspelled
      obtain ⟨⟨hcontrol, htab⟩, hline⟩ := hspelled
      rcases hprintable with hle | heq | heq
      · omega
      · exact htab heq
      · exact hline heq
    have hrest := ih h.2 fun t ht => hspelled t (ht.trans (List.suffix_cons c s))
    rw [spell, hspelled _ List.suffix_rfl, hchar, hrest]
    simp only [Bool.false_eq_true, if_false]
    rw [Char.toString_eq_singleton, ← String.toList_inj, String.toList_append,
      String.toList_singleton, String.toList_ofList, String.toList_ofList]
    rfl

theorem spelled_plain {s : String} (h : Plain s) : spelled s = s := by
  unfold spelled
  rw [spell_plain h.chars h.unspelled, String.ofList_toList]

theorem formulaValue_eq (s : String) :
    ∃ t, formulaValue s = .formula t ∧ (s.toList.head? ≠ some '=' → t = s) := by
  unfold formulaValue
  split
  case h_1 rest heq => exact ⟨_, rfl, fun h => absurd (congrArg List.head? heq) h⟩
  case h_2 => exact ⟨s, rfl, fun _ => rfl⟩

/-- Reading gives back what was stored of a value. -/
theorem reread_number (x : Float) : (Content.number x).reread = .float x := by
  change (numberOrText (Number.plainText x)).cellValue = _
  rw [numberOrText, Number.readFloat?_plainText]
  rfl

theorem reread_formula (s : String) :
    (Content.formula (bareFormula s)).reread = reloaded (.formula s) := by
  rw [reloaded, Content.reread, Content.formula?]
  by_cases hbare : bareFormula s = ""
  · rw [if_pos hbare, if_pos (String.isEmpty_iff.2 hbare)]
    change (numberOrText "0").cellValue = _
    rw [numberOrText, show Number.readFloat? "0".toList = some 0 from rfl]
    rfl
  · rw [if_neg hbare, if_neg (mt String.isEmpty_iff.1 hbare)]

theorem reread_ofValue {v : CellValue} {content : Content} (h : Content.ofValue v = .ok content) :
    content.reread = reloaded v := by
  cases v with
  | empty =>
    cases h
    rfl
  | text s =>
    rw [reloaded]
    rw [Content.ofValue] at h
    split at h
    case isTrue hempty =>
      cases h
      rw [if_pos (String.isEmpty_iff.1 hempty)]
      rfl
    case isFalse hne =>
      rw [if_neg (mt String.isEmpty_iff.2 hne)]
      split at h
      case isTrue => cases h
      case isFalse =>
        cases h
        rfl
  | int n =>
    cases h
    exact reread_number _
  | float x =>
    obtain rfl := Except.ok.inj h
    rw [reloaded]
    split
    case isTrue => exact reread_number x
    case isFalse => rfl
  | bool b =>
    cases h
    rfl
  | formula s =>
    cases h
    exact reread_formula s

theorem look_ofStyle {s : Style} (h : ∀ c ∈ s.font.color, c ≤ 0xFFFFFF)
    (h' : ∀ c ∈ s.fill, c ≤ 0xFFFFFF) : (CellFormat.ofStyle s).look = look s := by
  have hfilter {o : Option Nat} (ho : ∀ c ∈ o, c ≤ 0xFFFFFF) : o.filter validColor = o := by
    cases o with
    | none => rfl
    | some c => exact if_pos (decide_eq_true (ho c rfl))
  unfold CellFormat.look CellFormat.ofStyle look
  simp only [hfilter h, hfilter h']
  cases s.fill <;> rfl

theorem look_formatOf {b : Workbook}
    (h : ∀ s ∈ b.styles, (∀ c ∈ s.font.color, c ≤ 0xFFFFFF) ∧ ∀ c ∈ s.fill, c ≤ 0xFFFFFF) (id : Nat) :
    (formatOf (b.styles.map .ofStyle) id).look = look (b.styles[id]?.getD {}) := by
  unfold formatOf
  rw [List.getElem?_map]
  cases hs : b.styles[id]? with
  | none => rfl
  | some s =>
    obtain ⟨hcolor, hfill⟩ := h s (List.mem_of_getElem? hs)
    exact look_ofStyle hcolor hfill

/-- A sheet that is read as it was stored. -/
theorem reloaded_reread {b book : Workbook} {s : Sheet} {formats : List CellFormat}
    {stored : StoredSheet} {ids : Array Nat} (hs : RegularSheet s)
    (hcolors : ∀ s ∈ b.styles, (∀ c ∈ s.font.color, c ≤ 0xFFFFFF) ∧ ∀ c ∈ s.fill, c ≤ 0xFFFFFF)
    (hkeeps : Keeps (b.styles.map .ofStyle) s formats stored)
    (hlooks : ∀ i f, formats[i]? = some f →
      ∃ style, book.styles[styleId ids i]? = some style ∧ look style = f.look) :
    Reloaded b book s (stored.reread ids) := by
  have hmerges : (stored.reread ids).merges = s.merges.filter isRegion := by
    rw [merges_reread, hkeeps.merges]
    rw [hkeeps.merges]
    exact fun a ha => hs.merges a (List.mem_of_mem_filter ha)
  have hvalue (c : CellRef) : (stored.reread ids).valueAt c = reloaded (s.valueAt c) := by
    rw [valueAt_reread]
    exact reread_ofValue (hkeeps.content c)
  refine ⟨(name_reread stored ids).trans hkeeps.name, hvalue, fun c t ht hne hplain => ?_,
    fun c n hn hlt => ⟨_, ?_, Number.nearest_ofInt hlt⟩, fun c t ht hne => ?_, hmerges,
    fun c hc => ?_⟩
  · rw [hvalue, ht, reloaded, if_neg hne, spelled_plain hplain]
  · rw [hvalue, hn, reloaded]
  · obtain ⟨t', ht', hsame⟩ := formulaValue_eq (bareFormula t)
    refine ⟨t', ?_, fun hbare hhead => ?_⟩
    · rw [hvalue, ht, reloaded, if_neg hne, ht']
    · rw [hbare] at hsame
      exact hsame hhead
  · have houtside : ∀ a ∈ s.merges.filter isRegion, c ∉ a.cells := by
      rw [hmerges] at hc
      exact fun a ha hmem => hc a ha (Area.mem_cells.1 hmem)
    obtain ⟨style, hstyle, hlook⟩ := hlooks _ _ (hkeeps.format c houtside)
    refine ⟨style, ?_, hlook.trans (look_formatOf hcolors _)⟩
    rw [Workbook.style, styleAt_reread, hstyle]

theorem exists_of_forall₂ {α β : Type} {R : α → β → Prop} {l : List α} {l' : List β}
    (h : List.Forall₂ R l l') {b : β} (hb : b ∈ l') : ∃ a ∈ l, R a b := by
  induction h with
  | nil => cases hb
  | cons hab _ ih =>
    rcases List.mem_cons.1 hb with rfl | hb
    · exact ⟨_, List.mem_cons_self, hab⟩
    · obtain ⟨a, ha, hR⟩ := ih hb
      exact ⟨a, List.mem_cons_of_mem _ ha, hR⟩

theorem eq_text_of_ofValue {v : CellValue} {t : String} (h : Content.ofValue v = .ok (.text t)) :
    v = .text t := by
  cases v with
  | text s =>
    rw [Content.ofValue] at h
    split at h
    case isTrue => cases h
    case isFalse =>
      split at h
      case isTrue => cases h
      case isFalse =>
        cases h
        rfl
  | float x =>
    have hcontent := Except.ok.inj h
    split at hcontent <;> cases hcontent
  | _ => cases h

/-- What is stored of a regular workbook can be opened again. -/
theorem openable_of_store {b : Workbook} {stored : StoredBook} (h : Regular b)
    (hstore : store b = .ok stored) (hfits : FitsPackage b stored.bytes) : stored.Openable := by
  obtain ⟨htable, hall⟩ := store_keeps h.sheets_ne_nil h.default hstore
  have hnames : b.sheets.map (·.name) = stored.sheets.map (·.name) := by
    refine List.forall₂_eq_eq_eq ▸ List.forall₂_map_left_iff.2 (List.forall₂_map_right_iff.2 ?_)
    exact hall.imp fun _ _ hkeeps => hkeeps.name.symm
  refine ⟨hnames ▸ b.names_nodup, htable, fun s hs => ?_, fun t ht => ?_, ?_, hfits.size⟩
  · obtain ⟨sheet, -, hkeeps⟩ := exists_of_forall₂ hall hs
    exact hkeeps.sound
  · rw [StoredBook.texts_eq, List.mem_flatMap] at ht
    obtain ⟨s, hs, ht⟩ := ht
    obtain ⟨⟨c, cell⟩, hmem, htext⟩ := List.mem_filterMap.1 ht
    obtain ⟨sheet, hsheet, hkeeps⟩ := exists_of_forall₂ hall hs
    have hcell : s.cellAt c = cell := by
      rw [StoredSheet.cellAt, Std.TreeMap.mem_toList_iff_getElem?_eq_some.1 hmem]
      rfl
    have hcontent : cell.content = .text t := by
      dsimp only at htext
      cases hcontent : cell.content <;> rw [hcontent] at htext <;> cases htext
      rfl
    refine (h.sheets sheet hsheet).texts c t (eq_text_of_ofValue ?_)
    rw [hkeeps.content c, hcell, hcontent]
  · rw [← hall.length_eq]
    exact hfits.count

/-- A stored workbook is read again, sheet by sheet. -/
theorem read_stored {b : Workbook} {stored : StoredBook} (h : Regular b)
    (hstore : store b = .ok stored) (hfits : FitsPackage b stored.bytes) :
    ∃ book, (read stored.bytes).result = .ok book ∧
      List.Forall₂ (Reloaded b book) b.sheets book.sheets := by
  obtain ⟨-, hall⟩ := store_keeps h.sheets_ne_nil h.default hstore
  obtain ⟨book, ids, hbook, hsheets, hlooks⟩ := read_bytes (openable_of_store h hstore hfits)
  refine ⟨book, hbook, ?_⟩
  rw [hsheets, List.forall₂_map_right_iff]
  have hregular := (List.forall₂_and_left _ _).2 ⟨h.sheets, hall⟩
  exact hregular.imp fun s s' hs => reloaded_reread hs.1 h.colors hs.2 hlooks

/-- A workbook that is written and read again has the same sheets in the same order. Every cell has
its value as far as a package tells it, the merged regions are those of more than one cell, and
outside of them every cell looks as before. -/
theorem read_write {b : Workbook} {bytes : ByteArray} (hwrite : write b = .ok bytes) (h : Regular b)
    (hfits : FitsPackage b bytes) :
    ∃ book, (read bytes).result = .ok book ∧
      List.Forall₂ (Reloaded b book) b.sheets book.sheets := by
  obtain ⟨stored, hstore, -, rfl⟩ := CommandLine.write_eq_ok_iff.1 hwrite
  exact read_stored h hstore hfits

def reportSheet : Sheet where
  name := "Report"
  cells := .ofList ([(⟨0, 0⟩, { value := .text "Sales" }), (⟨0, 1⟩, { value := .bool true }),
    (⟨1, 0⟩, { value := .int 7, style := 1 }), (⟨1, 1⟩, { value := .formula "A2*2" }),
    (⟨2, 0⟩, { value := .formula "" })] : List (CellRef × Cell))
  merges := [⟨0, 0, 1, 0⟩, ⟨2, 2, 2, 2⟩]

def report : Workbook where
  sheets := [reportSheet]
  styles := [{}, { font.bold := true }]
  names_nodup := List.nodup_singleton _

/-- What is stored of the report makes short parts. -/
theorem store_report :
    ∃ stored, store report = .ok stored ∧ stored.checkNames = .ok () ∧
      stored.sheets.map (·.name) = ["Report"] ∧ stored.formats = [{}, { bold := true }] ∧
      AtMost 20000 (stringsPart stored.texts) ∧
      ∀ part ∈ sheetParts 0 stored.sheets, AtMost 20000 part := by
  have hstored : (store report).toOption.any (fun stored =>
      (stored.sheets.map fun s => Text.lower s.name).Nodup &&
      stored.sheets.map (·.name) = ["Report"] && stored.formats = [{}, { bold := true }] &&
      (stringsPart stored.texts).utf8ByteSize ≤ 20000 &&
      (sheetParts 0 stored.sheets).all (·.utf8ByteSize ≤ 20000)) = true := by decide +kernel
  cases hstore : store report with
  | error e =>
    rw [hstore] at hstored
    cases hstored
  | ok stored =>
    rw [hstore] at hstored
    simp only [Except.toOption, Option.any_some, Bool.and_eq_true, decide_eq_true_eq,
      List.all_eq_true] at hstored
    obtain ⟨⟨⟨⟨hnodup, hnames⟩, hformats⟩, htexts⟩, hsheets⟩ := hstored
    exact ⟨stored, rfl, if_pos hnodup, hnames, hformats, htexts, hsheets⟩

/-- The parts of the report that do not depend on its cells. -/
theorem atMost_fixedParts :
    AtMost 20000 (contentTypesPart 1) ∧
      AtMost 20000 (relationsPart [("officeDocument", "xl/workbook.xml")]) ∧
      AtMost 20000 (workbookPart ["Report"]) ∧
      AtMost 20000 (relationsPart [("worksheet", sheetTarget 0), ("styles", "styles.xml"),
        ("sharedStrings", "sharedStrings.xml")]) ∧
      AtMost 20000 (stylesPart [{}, { bold := true }]) := by
  refine ⟨?_, ?_, ?_, ?_, ?_⟩
  all_goals
    apply AtMost.mono
    case h =>
      apply AtMost.document
      repeat' first | exact .nil | apply List.Forall₂.cons | apply AtMost.element
    case hle => decide

/-- The report is written, to less bytes than a package can count. -/
theorem write_report : ∃ bytes, write report = .ok bytes ∧ FitsPackage report bytes := by
  obtain ⟨stored, hstore, hnames, hsheets, hformats, htexts, hcells⟩ := store_report
  refine ⟨stored.bytes, CommandLine.write_eq_ok_iff.2 ⟨stored, hstore, hnames, rfl⟩, by decide, ?_⟩
  obtain ⟨htypes, hroot, hbook, hrelations, hstyles⟩ := atMost_fixedParts
  have hcount : stored.sheets.length = 1 := by rw [← List.length_map (·.name), hsheets]; rfl
  have hnames : ∀ p ∈ stored.parts, AtMost 100 p.1 := by
    rw [← List.forall_mem_map (P := AtMost 100), StoredBook.names_parts, hcount]
    decide
  have hparts : ∀ p ∈ stored.parts, AtMost 20000 p.2 := by
    rw [StoredBook.parts, List.forall_mem_append, hsheets, hformats, hcount]
    refine ⟨?_, ?_⟩
    · simp only [List.forall_mem_cons]
      exact ⟨htypes, hroot, hbook, hrelations, hstyles, htexts, List.forall_mem_nil _⟩
    · rw [List.forall_mem_map]
      exact fun p hp => hcells p.1 (List.fst_mem_of_mem_zipIdx hp)
  have hsize := StoredBook.size_bytes_le hnames hparts
  rw [StoredBook.length_parts, hcount] at hsize
  exact Nat.lt_of_le_of_lt hsize (by decide)

theorem exists_cell_of_text {s : Sheet} {c : CellRef} {t : String} (h : s.valueAt c = .text t) :
    ∃ cell, (c, cell) ∈ s.cells.toList ∧ cell.value = .text t := by
  rcases mem_cells_or_cellAt_eq s c with hcell | ⟨-, hcell⟩
  · exact ⟨_, hcell, h⟩
  · rw [Sheet.valueAt, hcell] at h
    cases h

theorem regular_report : Regular report where
  sheets_ne_nil := List.cons_ne_nil _ _
  sheets s hs := by
    obtain rfl := List.mem_singleton.1 hs
    refine ⟨by decide, fun c t ht => ?_⟩
    obtain ⟨cell, hcell, htext⟩ := exists_cell_of_text ht
    have htexts : reportSheet.cells.toList.all (fun p =>
        p.2.value.text?.all fun t => !isMarkup t) = true := by decide +kernel
    have hmarkup := List.all_eq_true.1 htexts _ hcell
    dsimp only at hmarkup
    rw [htext] at hmarkup
    exact (Bool.not_eq_true' _).mp hmarkup
  default := rfl
  colors := by decide

theorem read_write_report :
    ∃ bytes, (write report = .ok bytes ∧ Regular report ∧ FitsPackage report bytes) ∧
      ∃ book, (read bytes).result = .ok book ∧
        List.Forall₂ (Reloaded report book) report.sheets book.sheets := by
  obtain ⟨bytes, hwrite, hfits⟩ := write_report
  exact ⟨bytes, ⟨hwrite, regular_report, hfits⟩, read_write hwrite regular_report hfits⟩

/-- A formula without text is read back as the number that was stored with it. -/
theorem not_forall_formula_reloaded :
    ¬ ∀ (b : Workbook) (bytes : ByteArray), write b = .ok bytes → Regular b → FitsPackage b bytes →
      ∃ book, (read bytes).result = .ok book ∧
        List.Forall₂ (fun s s' => ∀ c t, s.valueAt c = .formula t → ∃ t', s'.valueAt c = .formula t')
          b.sheets book.sheets := by
  intro hall
  obtain ⟨bytes, hwrite, hfits⟩ := write_report
  obtain ⟨stored, hstore, -, rfl⟩ := CommandLine.write_eq_ok_iff.1 hwrite
  obtain ⟨book, hread, hreloaded⟩ := read_stored regular_report hstore hfits
  obtain ⟨book', hread', hformulas⟩ := hall _ _ hwrite regular_report hfits
  obtain rfl : book = book' := Except.ok.inj (hread.symm.trans hread')
  obtain ⟨s', rest, hs', -, hsheets⟩ := List.forall₂_cons_left_iff.1 hreloaded
  rw [hsheets] at hformulas
  obtain ⟨hformula, -⟩ := List.forall₂_cons.1 hformulas
  have hempty : reportSheet.valueAt ⟨2, 0⟩ = .formula "" := by rfl
  obtain ⟨t, ht⟩ := hformula ⟨2, 0⟩ "" hempty
  rw [hs'.value, hempty, reloaded, if_pos (by decide)] at ht
  cases ht

end SheetTemplate.Xlsx
