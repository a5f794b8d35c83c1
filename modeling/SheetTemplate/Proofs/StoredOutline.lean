import SheetTemplate.Proofs.Lookups
import SheetTemplate.Proofs.Packing
import SheetTemplate.Proofs.StoredStyles
import SheetTemplate.Xlsx.Reading

namespace SheetTemplate.Xlsx

open Xml Package

def calm (name : String) : Bool := localName name ∉ ["numFmts", "cellXfs", "styleSheet"]

def Calm (es : Elements) : Prop := es.All fun t => calm t.name = true

theorem calm_single {name : String} {attributes : List (String × String)} {inside : Elements}
    (h : calm name = true) (hinside : Calm inside) : Calm (.single name attributes inside) :=
  Elements.all_single h hinside

theorem calm_each {α : Type} {name : String} {attributes : α → List (String × String)}
    {inside : α → Elements} {l : List α} (h : calm name = true)
    (hinside : ∀ a ∈ l, Calm (inside a)) : Calm (.each name attributes inside l) :=
  Elements.all_each (fun _ _ => h) hinside

theorem calm_flag {name : String} (h : calm name = true) (on : Bool) : Calm (flagTree name on) := by
  cases on with
  | false => exact Elements.all_nil
  | true => exact calm_single h Elements.all_nil

theorem calm_color {name : String} (h : calm name = true) (color : Option Nat) :
    Calm (colorTree name color) := by
  cases color with
  | none => exact Elements.all_nil
  | some c => exact calm_single h Elements.all_nil

namespace CellFormat

variable (f : CellFormat)

theorem calm_font : Calm f.fontTree :=
  Elements.all_append (Elements.all_append (Elements.all_append (Elements.all_append
    (calm_flag (by decide) _) (calm_flag (by decide) _))
    (calm_single (by decide) Elements.all_nil)) (calm_color (by decide) _))
    (calm_single (by decide) Elements.all_nil)

theorem calm_fill : Calm f.fillTree := calm_single (by decide) (calm_color (by decide) _)

theorem calm_border : Calm f.borderTree :=
  Elements.all_append (Elements.all_append (Elements.all_append
    (calm_single (by decide) Elements.all_nil) (calm_single (by decide) Elements.all_nil))
    (calm_single (by decide) Elements.all_nil)) (calm_single (by decide) Elements.all_nil)

theorem calm_record : Calm f.recordTree := by
  refine Elements.all_append ?_ ?_
  · unfold alignmentTree
    split
    case isTrue => exact Elements.all_nil
    case isFalse => exact calm_single (by decide) Elements.all_nil
  · unfold protectionTree
    split
    case isTrue => exact Elements.all_nil
    case isFalse => exact calm_single (by decide) Elements.all_nil

end CellFormat

def Passed (es : Elements) : Prop := es.events.foldlM StyleCheck.step? .outside = some .outside

theorem passed_append {es es' : Elements} (h : Passed es) (h' : Passed es') :
    Passed (es ++ es') := by
  unfold Passed
  rw [Elements.events_append, List.foldlM_append, h]
  exact h'

theorem step?_outside {name : String} (h : calm name = true) (attributes : Bytes) :
    StyleCheck.step? .outside (.start ⟨name, attributes⟩) = some .outside ∧
      StyleCheck.step? .outside (.stop name) = some .outside := by
  simp only [calm, List.mem_cons, List.not_mem_nil, or_false, not_or, decide_eq_true_eq] at h
  simp only [StyleCheck.step?]
  constructor
  · split <;> simp_all
  · simp [h]

theorem passed_calm {es : Elements} (h : Calm es) : Passed es :=
  Elements.foldlM_events fun t ht => step?_outside (h t ht) t.attributes

theorem step?_section {name : String} {c : StyleCheck} (hname : localName name = name)
    (h : name = "numFmts" ∧ c = .numberFormats ∨ name = "cellXfs" ∧ c = .records)
    (attributes : List (String × String)) :
    StyleCheck.step? .outside (.start (tagOf name attributes)) = some c ∧
      StyleCheck.step? c (.stop name) = some .outside := by
  simp only [StyleCheck.step?, tagOf, hname]
  rcases h with ⟨rfl, rfl⟩ | ⟨rfl, rfl⟩ <;> simp [hname]

theorem passed_codesTree (codes : List (Nat × String)) : Passed (codesTree codes) := by
  unfold codesTree
  split
  case isTrue => rfl
  case isFalse =>
    have hinside : ∀ es : Elements, es.All (fun t =>
        localName t.name = "numFmt" ∧ numberFormatReadable t = true) →
        es.events.foldlM StyleCheck.step? .numberFormats = some .numberFormats := by
      refine fun es hes => Elements.foldlM_events fun t ht => ?_
      obtain ⟨hname, hreadable⟩ := hes t ht
      simp only [StyleCheck.step?]
      simp [hname, hreadable]
    obtain ⟨hstart, hstop⟩ := step?_section (by decide) (.inl ⟨rfl, rfl⟩)
      [("count", Number.natText codes.length)]
    refine Elements.foldlM_single hstart (hinside _ ?_) hstop
    refine Elements.all_each (fun code _ => ⟨show localName "numFmt" = "numFmt" by decide, ?_⟩)
      fun _ _ => Elements.all_nil
    unfold numberFormatReadable
    rw [all?_tagOf (by simp +decide [areNames])]
    simp [decode?_utf8]

theorem passed_records {attributes : List (String × String)} {es : Elements} (h : Calm es) :
    Passed (.single "cellXfs" attributes es) := by
  have hinside : es.events.foldlM StyleCheck.step? .records = some .records := by
    refine Elements.foldlM_events fun t ht => ?_
    have hcalm := h t ht
    simp only [calm, List.mem_cons, List.not_mem_nil, or_false, not_or, decide_eq_true_eq] at hcalm
    simp [StyleCheck.step?, hcalm]
  obtain ⟨hstart, hstop⟩ := step?_section (by decide) (.inr ⟨rfl, rfl⟩)
    attributes
  exact Elements.foldlM_single hstart hinside hstop

theorem stylesReadable_stylesPart (formats : List CellFormat) :
    stylesReadable (lenientEvents (utf8 (stylesPart formats).toList)) = true := by
  have hplain (type : String) : Calm (plainFillTree type) :=
    calm_single (by decide) (calm_single (by decide) Elements.all_nil)
  have hpassed : Passed (stylesTree formats) := by
    refine passed_append (passed_codesTree _) (passed_append (passed_calm ?_) (passed_append
      (passed_calm ?_) (passed_append (passed_calm ?_) (passed_append (passed_calm ?_)
        (passed_append (passed_records ?_) (passed_calm ?_))))))
    · exact calm_single (by decide) (calm_each (by decide) fun f _ => f.calm_font)
    · exact calm_single (by decide) (Elements.all_append (hplain _) (Elements.all_append (hplain _)
        (calm_each (by decide) fun f _ => f.calm_fill)))
    · exact calm_single (by decide) (calm_each (by decide) fun f _ => f.calm_border)
    · exact calm_single (by decide) (calm_single (by decide) Elements.all_nil)
    · exact calm_each (by decide) fun f _ => f.1.calm_record
    · exact calm_single (by decide) (calm_single (by decide) Elements.all_nil)
  have hchecked : (Elements.single "styleSheet" [("xmlns", mainNamespace)]
      (stylesTree formats)).events.foldlM StyleCheck.step? .outside = some .finished :=
    Elements.foldlM_single rfl hpassed rfl
  rw [(writes_styles formats).lenientEvents]
  unfold stylesReadable
  rw [List.foldlM_cons]
  change ((Elements.single "styleSheet" [("xmlns", mainNamespace)] (stylesTree formats)).events.foldlM
    StyleCheck.step? .outside == some .finished) = true
  rw [hchecked]
  rfl

theorem natText_inj {m n : Nat} (h : Number.natText m = Number.natText n) : m = n := by
  have hdigits := congrArg (fun s : String => Number.digitsValue s.toList) h
  simpa only [Number.natText, String.toList_ofList, digitsValue_natDigits] using hdigits

theorem relationId_inj {i j : Nat} (h : relationId i = relationId j) : i = j :=
  Nat.succ_inj.1 (natText_inj ((String.append_right_inj _).1 h))

def relationAttributes (p : (String × String) × Nat) : List (String × String) :=
  [("Id", relationId p.2), ("Type", relationNamespace ++ "/" ++ p.1.1), ("Target", p.1.2)]

def relationsTree (targets : List (String × String)) : Elements :=
  .single "Relationships" [("xmlns", packageNamespace ++ "relationships")]
    (.each "Relationship" relationAttributes (fun _ => .nil) targets.zipIdx)

theorem areNames_relation (p : (String × String) × Nat) : areNames (relationAttributes p) = true := by
  simp +decide [areNames, relationAttributes]

theorem writes_relations (targets : List (String × String)) :
    Marked (relationsPart targets).toList (relationsTree targets)
      (.text [byte '\n'] :: (relationsTree targets).events) :=
  marked_document (writes_element (by decide) rfl
    (writes_each (by decide) (fun p _ => areNames_relation p) fun _ _ => writes_nil))

theorem events_each_nil {α : Type} (name : String) (attributes : α → List (String × String))
    (l : List α) :
    (Elements.each name attributes (fun _ => .nil) l).events =
      l.flatMap fun a => [.start (tagOf name (attributes a)), .stop name] := by
  induction l with
  | nil => rfl
  | cons a l ih =>
    rw [Elements.each, Elements.events, ih]
    rfl

def relationOf (p : (String × String) × Nat) : Bytes × String :=
  (utf8 (escapedValue (relationId p.2).toList), p.1.2)

theorem relationship?_tagOf {p : (String × String) × Nat}
    (h : unmarked p.1.2.toList = true) :
    relationship? (tagOf "Relationship" (relationAttributes p)) = some (relationOf p) := by
  have htarget : decode? (utf8 (escapedValue p.1.2.toList)) = some p.1.2 := by
    rw [escapedValue_unmarked h, decode?_utf8, String.ofList_toList]
  unfold relationship?
  rw [all?_tagOf (areNames_relation p)]
  simp [relationAttributes, List.lookup_cons, htarget, relationOf]

theorem relationships?_document {targets : List (String × String)}
    (h : ∀ t ∈ targets, unmarked t.2.toList = true) :
    relationships? (lenientEvents (utf8 (relationsPart targets).toList)) =
      some (targets.zipIdx.map relationOf) := by
  have hstop : localName "Relationships" = "Relationships" := by decide
  have hname : localName "Relationship" = "Relationship" := by decide
  have hrelations (l : List ((String × String) × Nat)) (hl : ∀ p ∈ l, p.1 ∈ targets) :
      relationships? (l.flatMap (fun p =>
        [.start (tagOf "Relationship" (relationAttributes p)), .stop "Relationship"]) ++
          [.stop "Relationships"]) = some (l.map relationOf) := by
    induction l with
    | nil => simp [relationships?, hstop]
    | cons p l ih =>
      rw [List.forall_mem_cons] at hl
      have hnext := ih hl.2
      simp only [List.flatMap_cons, List.cons_append, List.nil_append, relationships?, tagOf_name,
        hname, if_true, relationship?_tagOf (h _ hl.1), hnext]
      rfl
  rw [(writes_relations targets).lenientEvents, relationsTree, Elements.single, Elements.events,
    Elements.events, events_each_nil]
  simp only [relationships?, tagOf_name, hstop, List.cons_append]
  rw [if_neg (by decide)]
  exact hrelations _ fun p hp => List.fst_mem_of_mem_zipIdx hp

section

variable {element first second : String}

def pairOf (first second : String) (f : Fields) : List (String × String) :=
  match f.get? first, f.get? second with
  | some a, some b => [(a, b)]
  | _, _ => []

theorem pairs_start (t : Tag) (rest : List Event) :
    Fields.pairs element first second (.start t :: rest) =
      if localName t.name = element then do
        let f ← Fields.ofTag t
        let more ← Fields.pairs element first second rest
        pure (pairOf first second f ++ more)
      else Fields.pairs element first second rest := by
  rw [Fields.pairs]
  refine if_congr Iff.rfl (bind_congr fun f => bind_congr fun more => ?_) rfl
  unfold pairOf
  cases f.get? first with
  | none => rfl
  | some a => cases f.get? second <;> rfl

theorem pairs_append {l l' : List Event} {a b : List (String × String)}
    (h : Fields.pairs element first second l = .ok a)
    (h' : Fields.pairs element first second l' = .ok b) :
    Fields.pairs element first second (l ++ l') = .ok (a ++ b) := by
  induction l generalizing a with
  | nil =>
    cases h
    exact h'
  | cons e l ih =>
    cases e with
    | broken => cases h
    | stop _ => exact ih h
    | text _ => exact ih h
    | start t =>
      rw [List.cons_append]
      rw [pairs_start] at h ⊢
      split at h
      case isFalse hname =>
        rw [if_neg hname]
        exact ih h
      case isTrue hname =>
        rw [if_pos hname]
        obtain ⟨f, hf, h⟩ := bind_eq_ok_iff.1 h
        obtain ⟨more, hmore, h⟩ := bind_eq_ok_iff.1 h
        cases h
        rw [hf, ih hmore, List.append_assoc]
        rfl

theorem pairs_flatMap {α : Type} {l : List α} {events : α → List Event}
    {value : α → List (String × String)}
    (h : ∀ a ∈ l, Fields.pairs element first second (events a) = .ok (value a)) :
    Fields.pairs element first second (l.flatMap events) = .ok (l.flatMap value) := by
  induction l with
  | nil => rfl
  | cons a l ih =>
    rw [List.forall_mem_cons] at h
    exact pairs_append h.1 (ih h.2)

def Silent (element : String) : Event → Prop
  | .start t => localName t.name ≠ element
  | .stop _ | .text _ => True
  | .broken => False

theorem pairs_silent {l : List Event} (h : ∀ e ∈ l, Silent element e) :
    Fields.pairs element first second l = .ok [] := by
  induction l with
  | nil => rfl
  | cons e l ih =>
    rw [List.forall_mem_cons] at h
    cases e with
    | broken => exact h.1.elim
    | stop _ => exact ih h.2
    | text _ => exact ih h.2
    | start t =>
      rw [Fields.pairs, if_neg h.1]
      exact ih h.2

theorem pairs_startTag {name : String} {attributes : List (String × String)}
    (hname : localName name = element) (h : areNames attributes = true) :
    Fields.pairs element first second [.start (tagOf name attributes)] =
      .ok (pairOf first second (.written attributes)) := by
  rw [pairs_start, tagOf_name, if_pos hname, Fields.ofTag_tagOf h]
  exact congrArg Except.ok (List.append_nil _)

theorem pairs_tagOf {name a b : String} {attributes : List (String × String)}
    (hname : localName name = element) (h : areNames attributes = true)
    (hfirst : (Fields.written attributes).get? first = some a)
    (hsecond : (Fields.written attributes).get? second = some b) :
    Fields.pairs element first second [.start (tagOf name attributes), .stop name] =
      .ok [(a, b)] := by
  have hpair : pairOf first second (.written attributes) = [(a, b)] := by
    rw [pairOf, hfirst, hsecond]
  have hstart := @pairs_startTag element first second _ _ hname h
  rw [hpair] at hstart
  exact pairs_append hstart (show Fields.pairs element first second [.stop name] = .ok [] from rfl)

end

theorem pairs_relations (targets : List (String × String)) :
    Fields.pairs "Relationship" "Id" "Target"
      (strictEvents (utf8 (relationsPart targets).toList)) =
        .ok (targets.zipIdx.map fun p => (relationId p.2, p.1.2)) := by
  rw [(writes_relations targets).strictEvents, relationsTree, Elements.single, Elements.events,
    Elements.events, events_each_nil]
  have hstart : Fields.pairs "Relationship" "Id" "Target"
      [.text [byte '\n'],
        .start (tagOf "Relationships" [("xmlns", packageNamespace ++ "relationships")])] =
        .ok [] := by
    refine pairs_silent ?_
    simp +decide [Silent]
  have hentries := @pairs_flatMap "Relationship" "Id" "Target" _ targets.zipIdx
    (fun p => [.start (tagOf "Relationship" (relationAttributes p)), .stop "Relationship"])
    (fun p => [(relationId p.2, p.1.2)]) fun p _ =>
      pairs_tagOf (by decide) (areNames_relation p)
        (by simp +decide [Fields.written, Fields.get?, relationAttributes, localName_plain,
          List.lookup_cons])
        (by simp +decide [Fields.written, Fields.get?, relationAttributes, localName_plain])
  have hstop : Fields.pairs "Relationship" "Id" "Target" [.stop "Relationships"] = .ok [] := rfl
  have hall := pairs_append hstart (pairs_append hentries hstop)
  rw [List.nil_append, List.append_nil, ← List.map_eq_flatMap] at hall
  exact hall

def sheetPath (i : Nat) : String := "xl/" ++ sheetTarget i

theorem toList_sheetTarget (i : Nat) : (sheetTarget i).toList =
    "worksheets".toList ++ '/' :: ("sheet".toList ++ Number.natDigits (i + 1) ++ ".xml".toList) := by
  have hfolder : "worksheets/sheet".toList = "worksheets".toList ++ '/' :: "sheet".toList := by decide
  have hdigits : (Number.natText (i + 1)).toList = Number.natDigits (i + 1) := String.toList_ofList
  calc (sheetTarget i).toList
      = ("worksheets/sheet" ++ Number.natText (i + 1)).toList ++ ".xml".toList :=
        String.toList_append
    _ = "worksheets/sheet".toList ++ (Number.natText (i + 1)).toList ++ ".xml".toList :=
        congrArg (· ++ _) String.toList_append
    _ = "worksheets".toList ++ '/' :: "sheet".toList ++ Number.natDigits (i + 1) ++ ".xml".toList :=
        congrArg (· ++ ".xml".toList) (congrArg₂ (· ++ ·) hfolder hdigits)
    _ = _ := by simp only [List.append_assoc, List.cons_append]

theorem startsWith_sheetTarget (i : Nat) {s : String} (h : s.toList.head? ≠ some 'w')
    (hne : s.toList ≠ []) : (sheetTarget i).startsWith s = false := by
  rw [String.startsWith_string_eq_false_iff]
  rintro ⟨rest, hrest⟩
  rw [toList_sheetTarget] at hrest
  cases hs : s.toList with
  | nil => exact hne hs
  | cons c t =>
    rw [hs] at hrest h
    exact h (congrArg some (List.cons.inj hrest).1)

theorem partOfTarget_sheetTarget (i : Nat) : partOfTarget (sheetTarget i) = sheetPath i := by
  rw [partOfTarget, startsWith_sheetTarget i (by decide) (by decide),
    startsWith_sheetTarget i (by decide) (by decide)]
  rfl

theorem targetPart_sheetTarget (i : Nat) : targetPart (sheetTarget i) = sheetPath i := by
  rw [targetPart, startsWith_sheetTarget i (by decide) (by decide)]
  rfl

theorem folder_sheetPath (i : Nat) :
    ((sheetPath i).toList.splitOn '/')[1]? = some "worksheets".toList := by
  have hpath : (sheetPath i).toList = "xl".toList ++ '/' :: ("worksheets".toList ++ '/' ::
      ("sheet".toList ++ Number.natDigits (i + 1) ++ ".xml".toList)) := by
    rw [sheetPath, String.toList_append, toList_sheetTarget]
    rfl
  rw [hpath, List.splitOn_append_cons_self_of_not_mem (by decide),
    List.splitOn_append_cons_self_of_not_mem (by decide)]
  rfl

def sheetAttributes (p : String × Nat) : List (String × String) :=
  [("name", p.1), ("sheetId", Number.natText (p.2 + 1)), ("r:id", relationId p.2)]

theorem areNames_sheet (p : String × Nat) : areNames (sheetAttributes p) = true := by
  simp +decide [areNames, sheetAttributes]

def workbookTree (names : List String) : Elements :=
  .single "workbook" [("xmlns", mainNamespace), ("xmlns:r", relationNamespace)]
    (.single "sheets" [] (.each "sheet" sheetAttributes (fun _ => .nil) names.zipIdx))

theorem writes_workbook (names : List String) :
    Marked (workbookPart names).toList (workbookTree names)
      (.text [byte '\n'] :: (workbookTree names).events) :=
  marked_document (writes_element (by decide) rfl (writes_element (by decide) rfl
    (writes_each (by decide) (fun p _ => areNames_sheet p) fun _ _ => writes_nil)))

theorem events_workbookTree (names : List String) : (workbookTree names).events =
    .start (tagOf "workbook" [("xmlns", mainNamespace), ("xmlns:r", relationNamespace)]) ::
      .start (tagOf "sheets" []) :: (names.zipIdx.flatMap (fun p =>
        [.start (tagOf "sheet" (sheetAttributes p)), .stop "sheet"]) ++
          [.stop "sheets", .stop "workbook"]) := by
  simp only [workbookTree, Elements.single, Elements.events, events_each_nil, tagOf_name,
    List.cons_append, List.append_assoc, List.nil_append]

theorem sheet?_tagOf {rels : Relationships} {p : String × Nat}
    (h : rels.reverse.lookup (utf8 (escapedValue (relationId p.2).toList)) = some (sheetTarget p.2)) :
    sheet? rels (tagOf "sheet" (sheetAttributes p)) = some (p.1, sheetPath p.2) := by
  have hname : sheetAttribute? rels ("", "") ("name", utf8 (escapedValue p.1.toList)) =
      some (p.1, "") := by
    rw [sheetAttribute?, value?_escapedValue, String.ofList_toList]
    rfl
  have hid : sheetAttribute? rels (p.1, "") ("r:id", utf8 (escapedValue (relationId p.2).toList)) =
      some (p.1, sheetPath p.2) := by
    rw [sheetAttribute?, h, Option.map_some, partOfTarget_sheetTarget]
  have hother (v : Bytes) : sheetAttribute? rels (p.1, "") ("sheetId", v) = some (p.1, "") := rfl
  have hfold : ((sheetAttributes p).map fun a => (a.1, utf8 (escapedValue a.2.toList))).foldlM
      (sheetAttribute? rels) ("", "") = some (p.1, sheetPath p.2) := by
    simp only [sheetAttributes, List.map_cons, List.map_nil, List.foldlM_cons, List.foldlM_nil, hname,
      hother, hid, Option.bind_eq_bind, Option.bind_some]
    rfl
  unfold sheet?
  rw [all?_tagOf (areNames_sheet p)]
  simp only [Option.bind_eq_bind, Option.bind_some, hfold, folder_sheetPath]
  rw [if_pos (by decide)]

theorem sheets?_start {rels : Relationships} {t : Tag} (h : localName t.name ≠ "sheet")
    (hsettings : t.name ≠ "workbookPr") (hdefined : localName t.name ≠ "definedName") (fuel : Nat)
    (rest : List Event) : sheets? rels (fuel + 1) (.start t :: rest) = sheets? rels fuel rest := by
  rw [sheets?, if_neg h, if_neg (by simp [hsettings]), if_neg hdefined]

theorem sheets?_list {rels : Relationships} {l : List (String × Nat)}
    (h : ∀ p ∈ l, rels.reverse.lookup (utf8 (escapedValue (relationId p.2).toList)) =
      some (sheetTarget p.2)) (fuel : Nat) :
    sheets? rels (fuel + 2 * l.length + 2) (l.flatMap (fun p =>
      [.start (tagOf "sheet" (sheetAttributes p)), .stop "sheet"]) ++
        [.stop "sheets", .stop "workbook"]) = some (l.map fun p => (p.1, sheetPath p.2)) := by
  have hname : localName "sheet" = "sheet" := by decide
  have hworkbook : localName "workbook" = "workbook" := by decide
  induction l with
  | nil =>
    rw [List.flatMap_nil, List.nil_append, sheets?, if_neg (by decide), sheets?,
      if_pos hworkbook]
    rfl
  | cons p l ih =>
    rw [List.forall_mem_cons] at h
    have hnext := ih h.2
    rw [show fuel + 2 * (p :: l).length + 2 = (fuel + 2 * l.length + 2) + 1 + 1 by
      rw [List.length_cons]; omega]
    change sheets? rels _ (.start (tagOf "sheet" (sheetAttributes p)) :: .stop "sheet" ::
      (l.flatMap _ ++ _)) = _
    rw [sheets?, tagOf_name, if_pos hname, sheet?_tagOf h.1, sheets?, hname,
      if_neg (by decide), hnext]
    rfl

/-- The sheets with their parts, as the lenient reader lists them. -/
theorem sheets?_document {rels : Relationships} {names : List String}
    (h : ∀ i < names.length,
      rels.reverse.lookup (utf8 (escapedValue (relationId i).toList)) = some (sheetTarget i))
    (fuel : Nat) (hfuel : (lenientEvents (utf8 (workbookPart names).toList)).length < fuel) :
    sheets? rels fuel (lenientEvents (utf8 (workbookPart names).toList)) =
      some (names.zipIdx.map fun p => (p.1, sheetPath p.2)) := by
  rw [(writes_workbook names).lenientEvents, events_workbookTree] at hfuel ⊢
  have hlength : (names.zipIdx.flatMap fun p => [Event.start (tagOf "sheet" (sheetAttributes p)),
      Event.stop "sheet"]).length = 2 * names.zipIdx.length := by
    rw [List.length_flatMap]
    simp
    omega
  obtain ⟨n, rfl⟩ : ∃ n, fuel = n + 2 * names.zipIdx.length + 2 + 1 + 1 + 1 := by
    simp only [List.length_cons, List.length_append, hlength, List.length_nil] at hfuel
    exact ⟨fuel - (2 * names.zipIdx.length + 5), by omega⟩
  rw [sheets?, sheets?_start (by decide) (by decide) (by decide),
    sheets?_start (by decide) (by decide) (by decide)]
  refine sheets?_list (fun p hp => h _ ?_) n
  have hlt := List.snd_lt_of_mem_zipIdx hp
  omega

/-- The sheets with the ids of their relationships, as the strict reader lists them. -/
theorem pairs_workbook (names : List String) :
    Fields.pairs "sheet" "name" "id" (strictEvents (utf8 (workbookPart names).toList)) =
      .ok (names.zipIdx.map fun p => (p.1, relationId p.2)) := by
  have hid : localName "r:id" = "id" := by decide
  have hstart : Fields.pairs "sheet" "name" "id" [.text [byte '\n'],
      .start (tagOf "workbook" [("xmlns", mainNamespace), ("xmlns:r", relationNamespace)]),
      .start (tagOf "sheets" [])] = .ok [] := by
    refine pairs_silent ?_
    simp +decide [Silent]
  have hentries := @pairs_flatMap "sheet" "name" "id" _ names.zipIdx
    (fun p => [.start (tagOf "sheet" (sheetAttributes p)), .stop "sheet"])
    (fun p => [(p.1, relationId p.2)]) fun p _ =>
      pairs_tagOf (by decide) (areNames_sheet p)
        (by simp +decide [Fields.written, Fields.get?, sheetAttributes, localName_plain, hid,
          List.lookup_cons])
        (by simp +decide [Fields.written, Fields.get?, sheetAttributes, hid])
  have hstop : Fields.pairs "sheet" "name" "id" [.stop "sheets", .stop "workbook"] = .ok [] := rfl
  have hall := pairs_append hstart (pairs_append hentries hstop)
  rw [List.nil_append, List.append_nil, ← List.map_eq_flatMap] at hall
  rw [(writes_workbook names).strictEvents, events_workbookTree]
  exact hall

def nameKey (name : String) : List Char := name.toList.map Char.toLower

theorem find?_of_mem {α β : Type} [BEq β] [LawfulBEq β] {key : α → β} {l : List α}
    (h : (l.map key).Nodup) {a : α} (ha : a ∈ l) : l.find? (fun x => key x == key a) = some a := by
  induction l with
  | nil => cases ha
  | cons x l ih =>
    rw [List.map_cons, List.nodup_cons] at h
    rcases List.mem_cons.1 ha with rfl | ha
    · rw [List.find?_cons_of_pos (by simp)]
    · rw [List.find?_cons_of_neg, ih h.2 ha]
      rw [beq_iff_eq]
      exact fun heq => h.1 (heq ▸ List.mem_map_of_mem ha)

def entriesOf (parts : List (String × String)) : List Entry :=
  parts.map fun p => .ofContents p.1 p.2.toUTF8

section

variable {parts : List (String × String)} (h : (parts.map fun p => nameKey p.1).Nodup)
  {name part : String} (hmem : (name, part) ∈ parts)

include h hmem

theorem findPart?_entriesOf :
    findPart? (entriesOf parts) name = some (.ofContents name part.toUTF8) := by
  have hfind := find?_of_mem h hmem
  unfold findPart? entriesOf
  rw [List.find?_map]
  exact congrArg (Option.map _) hfind

theorem findEvents?_entriesOf :
    findEvents? (entriesOf parts) name = some (some (lenientEvents (utf8 part.toList))) := by
  unfold findEvents?
  rw [findPart?_entriesOf h hmem]
  change (partEvents? _).map some = _
  rw [partEvents?, contents_ofContents]
  change some (some (lenientEvents (toList part.toUTF8))) = _
  rw [toList_toUTF8]

theorem readEvents?_entriesOf :
    readEvents? (entriesOf parts) name = .ok (some (strictEvents (utf8 part.toList))) := by
  have hnodup : (parts.map (·.1)).Nodup := by
    refine List.Nodup.of_map (nameKey ·) ?_
    rwa [List.map_map]
  have hfind := find?_of_mem hnodup hmem
  have hutf8 : (String.fromUTF8? part.toUTF8).isSome = true := by
    rw [fromUTF8?_toUTF8]
    rfl
  have hentry : (entriesOf parts).find? (·.name == name) =
      some (.ofContents name part.toUTF8) := by
    unfold entriesOf
    rw [List.find?_map]
    exact congrArg (Option.map _) hfind
  unfold readEvents?
  rw [hentry]
  dsimp only
  rw [contents_ofContents]
  dsimp only
  rw [if_pos hutf8, toList_toUTF8]

end

def fixedNames : List String :=
  ["[Content_Types].xml", "_rels/.rels", "xl/workbook.xml", "xl/_rels/workbook.xml.rels",
    "xl/styles.xml", "xl/sharedStrings.xml"]

theorem nameKey_sheetPath (i : Nat) : nameKey (sheetPath i) =
    "xl/works".toList ++ ("heets/sheet".toList ++ (Number.natDigits (i + 1) ++ ".xml".toList)) := by
  have hdigits : (Number.natDigits (i + 1)).map Char.toLower = Number.natDigits (i + 1) :=
    (List.map_congr_left fun c hc => toLower_of_isDigit (isDigit_of_mem_natDigits hc)).trans
      (List.map_id _)
  have hpath : (sheetPath i).toList = "xl/".toList ++ (sheetTarget i).toList := String.toList_append
  have hfolder : ("xl/".toList ++ "worksheets".toList ++ '/' :: "sheet".toList).map Char.toLower =
      "xl/works".toList ++ "heets/sheet".toList := by decide
  have hending : ".xml".toList.map Char.toLower = ".xml".toList := by decide
  have hsplit : (sheetPath i).toList = ("xl/".toList ++ "worksheets".toList ++ '/' :: "sheet".toList) ++
      Number.natDigits (i + 1) ++ ".xml".toList := by
    rw [hpath, toList_sheetTarget]
    simp only [List.append_assoc, List.cons_append]
  calc nameKey (sheetPath i)
      = (("xl/".toList ++ "worksheets".toList ++ '/' :: "sheet".toList) ++
          Number.natDigits (i + 1) ++ ".xml".toList).map Char.toLower := congrArg _ hsplit
    _ = ("xl/".toList ++ "worksheets".toList ++ '/' :: "sheet".toList).map Char.toLower ++
          (Number.natDigits (i + 1)).map Char.toLower ++ ".xml".toList.map Char.toLower := by
        rw [List.map_append, List.map_append]
    _ = ("xl/works".toList ++ "heets/sheet".toList) ++ Number.natDigits (i + 1) ++ ".xml".toList :=
        congr (congrArg _ (congr (congrArg _ hfolder) hdigits)) hending
    _ = _ := by simp only [List.append_assoc]

theorem sheetPath_inj {i j : Nat} (h : nameKey (sheetPath i) = nameKey (sheetPath j)) : i = j := by
  rw [nameKey_sheetPath, nameKey_sheetPath, List.append_cancel_left_eq, List.append_cancel_left_eq,
    List.append_cancel_right_eq] at h
  have hvalue := congrArg Number.digitsValue h
  rw [digitsValue_natDigits, digitsValue_natDigits] at hvalue
  exact Nat.succ_inj.1 hvalue

theorem nodup_names (n : Nat) :
    ((fixedNames ++ (List.range n).map sheetPath).map nameKey).Nodup := by
  rw [List.map_append, List.map_map, List.nodup_append]
  refine ⟨by decide, ?_, ?_⟩
  · exact List.nodup_range.map fun i j h => sheetPath_inj h
  · rintro a ha b hb rfl
    have hfixed : ∀ k ∈ fixedNames.map nameKey, k.take 8 ≠ "xl/works".toList := by decide
    obtain ⟨i, -, hi⟩ := List.mem_map.1 hb
    refine hfixed _ ha ?_
    rw [← hi]
    change (nameKey (sheetPath i)).take 8 = _
    rw [nameKey_sheetPath]
    exact List.take_left' (by decide)

end SheetTemplate.Xlsx
