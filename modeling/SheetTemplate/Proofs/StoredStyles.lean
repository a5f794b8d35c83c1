import SheetTemplate.Proofs.Spelling
import SheetTemplate.Proofs.StyleReading
import SheetTemplate.Xlsx.Writing

namespace SheetTemplate.Xml.Elements

theorem named_nil (name : String) : nil.named name = [] := rfl

theorem named_append (name : String) (es es' : Elements) :
    (es ++ es').named name = es.named name ++ es'.named name := by
  unfold named
  rw [list_append, List.filter_append]

theorem named_single (key name : String) (attributes : List (String × String))
    (inside : Elements) :
    (single name attributes inside).named key =
      if localName name = key then [(tagOf name attributes, inside)] else [] := by
  rw [single, named_cons, named_nil, List.append_nil]
  rfl

theorem named_each {α : Type} {key name : String} (h : localName name = key)
    (attributes : α → List (String × String)) (inside : α → Elements) (l : List α) :
    (each name attributes inside l).named key =
      l.map fun a => (tagOf name (attributes a), inside a) := by
  induction l with
  | nil => rfl
  | cons a l ih =>
    rw [each, named_cons, if_pos (show localName (tagOf name _).name = key from h), ih]
    rfl

end SheetTemplate.Xml.Elements

namespace SheetTemplate.Xlsx

open Xml StyleTree

section

variable {p q : Place} {name : String}

theorem fits_append {es es' : Elements} (h : fits p es = true) (h' : fits p es' = true) :
    fits p (es ++ es') = true := by
  induction es with
  | nil => exact h'
  | cons tag inside after _ ih =>
    obtain ⟨hreadable, hinside, hafter⟩ := fits_cons_iff.1 h
    exact fits_cons_iff.2 ⟨hreadable, hinside, ih hafter⟩

theorem readable_tagOf {attributes : List (String × String)} (h : areNames attributes = true) :
    Fields.readable (tagOf name attributes) = true := by
  rw [Fields.readable, Fields.ofTag_tagOf h]
  rfl

theorem fields_tagOf {attributes : List (String × String)} (h : areNames attributes = true) :
    fields (tagOf name attributes) = Fields.written attributes := by
  rw [fields, Fields.ofTag_tagOf h]
  rfl

theorem fits_single {attributes : List (String × String)} {inside : Elements}
    (hattributes : areNames attributes = true) (hnext : p.next? (localName name) = some q)
    (hinside : fits q inside = true) : fits p (.single name attributes inside) = true :=
  fits_cons_iff.2 ⟨fun _ => readable_tagOf hattributes, ⟨q, hnext, hinside⟩, rfl⟩

theorem fits_each {α : Type} {attributes : α → List (String × String)} {inside : α → Elements}
    {l : List α} (hattributes : ∀ a ∈ l, areNames (attributes a) = true)
    (hnext : p.next? (localName name) = some q) (hinside : ∀ a ∈ l, fits q (inside a) = true) :
    fits p (.each name attributes inside l) = true := by
  induction l with
  | nil => rfl
  | cons a l ih =>
    rw [List.forall_mem_cons] at hattributes hinside
    exact fits_cons_iff.2 ⟨fun _ => readable_tagOf hattributes.1, ⟨q, hnext, hinside.1⟩,
      ih hattributes.2 hinside.2⟩

end

structure Look where
  bold : Bool := false
  italic : Bool := false
  color : Option Nat := none
  fill : Option Nat := none
  border : Border := {}
  alignment : Alignment := {}
  protection : Protection := {}
deriving DecidableEq

def look (s : Style) : Look :=
  { bold := s.font.bold
    italic := s.font.italic
    color := s.font.color
    fill := s.fill
    border := s.border
    alignment := s.alignment
    protection := s.protection }

def CellFormat.look (f : CellFormat) : Look :=
  { bold := f.bold
    italic := f.italic
    color := f.fontColor
    fill := if f.solid then f.fillColor else none
    border := f.border
    alignment := f.alignment
    protection := f.protection }

structure CellFormat.Sound (f : CellFormat) : Prop where
  fontColor : ∀ c ∈ f.fontColor, c ≤ 0xFFFFFF
  fillColor : ∀ c ∈ f.fillColor, c ≤ 0xFFFFFF

theorem sound_ofStyle (s : Style) : (CellFormat.ofStyle s).Sound := by
  have hfilter (o : Option Nat) : ∀ c ∈ o.filter validColor, c ≤ 0xFFFFFF := by
    intro c hc
    have hvalid := (Option.mem_filter_iff.1 hc).2
    exact of_decide_eq_true hvalid
  exact ⟨hfilter _, hfilter _⟩

theorem hexValue?_digit {d : Nat} (h : d < 16) :
    Number.hexValue? (Nat.digitChar d).toUpper = some d ∧ (Nat.digitChar d).toUpper ≠ '+' := by
  revert h d
  decide

theorem readHex?_hexPairs {c : Nat} (h : c ≤ 0xFFFFFF) :
    Number.readHex? ((hexPair (c / 65536) ++ hexPair (c / 256) ++ hexPair c).map Char.toUpper) =
      some c := by
  have hdigit (n : Nat) : Number.hexValue? (Nat.digitChar (n % 16)).toUpper = some (n % 16) :=
    (hexValue?_digit (Nat.mod_lt _ (by decide))).1
  simp only [hexPair, List.cons_append, List.nil_append, List.map_cons, List.map_nil]
  simp only [Number.readHex?, List.isEmpty_cons, Bool.false_eq_true, if_false, List.foldl_cons,
    List.foldl_nil, hdigit, bind, Option.bind, pure]
  congr 1
  omega

theorem hexPairs_eq (c : Nat) :
    ∃ x s, (hexPair (c / 65536) ++ hexPair (c / 256) ++ hexPair c).map Char.toUpper = x :: s ∧
      x ≠ '+' ∧ s.length = 5 :=
  ⟨_, _, rfl, (hexValue?_digit (Nat.mod_lt _ (by decide))).2, rfl⟩

theorem color?_colorText {c : Nat} (h : c ≤ 0xFFFFFF) :
    color? (Fields.written [("rgb", colorText c)]) = some c := by
  have hget : (Fields.written [("rgb", colorText c)]).get? "rgb" = some (colorText c) := by
    simp +decide [Fields.written, Fields.get?, localName_plain]
  obtain ⟨x, s, hs, hx, hlength⟩ := hexPairs_eq c
  have hread := readHex?_hexPairs h
  have hdigits : (colorText c).toList = 'F' :: 'F' :: x :: s := by
    rw [colorText, String.toList_ofList, hs]
    rfl
  rw [hs] at hread
  unfold color?
  rw [hget]
  simp only [Option.bind_eq_bind, Option.bind_some, hdigits, List.length_cons, hlength]
  rw [if_neg (by decide)]
  have hdrop : List.drop (5 + 1 + 1 + 1 - 6) ('F' :: 'F' :: x :: s) = x :: s := rfl
  rw [hdrop]
  split
  case h_1 heq => exact absurd (List.cons.inj heq).1 hx
  case h_2 => exact hread

section

open Elements

def flagTree (name : String) (on : Bool) : Elements := if on then single name [] .nil else .nil

def colorTree (name : String) : Option Nat → Elements
  | some c => single name [("rgb", colorText c)] .nil
  | none => .nil

namespace CellFormat

variable (f : CellFormat)

def fontTree : Elements :=
  flagTree "b" f.bold ++ flagTree "i" f.italic ++ single "sz" [("val", f.fontSize)] .nil ++
    colorTree "color" f.fontColor ++ single "name" [("val", f.fontName)] .nil

def fillTree : Elements :=
  single "patternFill" [("patternType", if f.solid then "solid" else "none")]
    (colorTree "fgColor" f.fillColor)

def edgeTree (name : String) (line : BorderLine) : Elements :=
  single name ((lineText line).toList.map ("style", ·)) .nil

def borderTree : Elements :=
  edgeTree "left" f.border.left ++ edgeTree "right" f.border.right ++
    edgeTree "top" f.border.top ++ edgeTree "bottom" f.border.bottom

def alignmentAttributes (a : Alignment) : List (String × String) :=
  (horizontalText a.horizontal).toList.map ("horizontal", ·) ++
    (verticalText a.vertical).toList.map ("vertical", ·) ++
    (if a.wrap then [("wrapText", "1")] else [])

def protectionAttributes (p : Protection) : List (String × String) :=
  (if p.locked then [] else [("locked", "0")]) ++ (if p.hidden then [("hidden", "1")] else [])

def alignmentTree (a : Alignment) : Elements :=
  if a = {} then .nil else single "alignment" (alignmentAttributes a) .nil

def protectionTree (p : Protection) : Elements :=
  if p = {} then .nil else single "protection" (protectionAttributes p) .nil

def recordAttributes (i : Nat) : List (String × String) :=
  [("numFmtId", Number.natText (numberIndex i f.number)), ("fontId", Number.natText i),
    ("fillId", Number.natText (i + 2)), ("borderId", Number.natText i), ("xfId", "0"),
    ("applyNumberFormat", "1"), ("applyFont", "1"), ("applyFill", "1"), ("applyBorder", "1"),
    ("applyAlignment", "1"), ("applyProtection", "1")]

def recordTree : Elements := alignmentTree f.alignment ++ protectionTree f.protection

end CellFormat

end

namespace CellFormat

theorem writes_flag {name : String} (h : isName name = true) (on : Bool) :
    Writes (flagElement name on) (flagTree name on) := by
  cases on with
  | false => exact writes_nil
  | true => exact writes_element h rfl writes_nil

theorem writes_color {name : String} (h : isName name = true) (color : Option Nat) :
    Writes (colorElement name color) (colorTree name color) := by
  cases color with
  | none => exact writes_nil
  | some c => exact writes_element h (by simp +decide [areNames]) writes_nil

variable (f : CellFormat)

theorem writes_font :
    Writes (flagElement "b" f.bold ++ flagElement "i" f.italic ++
      [element "sz" [("val", f.fontSize)] []] ++ colorElement "color" f.fontColor ++
      [element "name" [("val", f.fontName)] []]) f.fontTree :=
  ((((writes_flag (by decide) _).append (writes_flag (by decide) _)).append
    (writes_element (by decide) (by simp +decide [areNames]) writes_nil)).append
    (writes_color (by decide) _)).append
    (writes_element (by decide) (by simp +decide [areNames]) writes_nil)

theorem writes_fill :
    Writes [element "patternFill" [("patternType", if f.solid then "solid" else "none")]
      (colorElement "fgColor" f.fillColor)] f.fillTree :=
  writes_element (by decide) (by simp +decide [areNames]) (writes_color (by decide) _)

theorem writes_edge {name : String} (h : isName name = true) (line : BorderLine) :
    Writes [edgeElement name line] (edgeTree name line) :=
  writes_element h (by cases line <;> decide) writes_nil

theorem writes_border :
    Writes [edgeElement "left" f.border.left, edgeElement "right" f.border.right,
      edgeElement "top" f.border.top, edgeElement "bottom" f.border.bottom] f.borderTree :=
  (((writes_edge (by decide) _).append (writes_edge (by decide) _)).append
    (writes_edge (by decide) _)).append (writes_edge (by decide) _)

theorem alignment_attributes (a : Alignment) :
    areNames (alignmentAttributes a) = true ∧
    (let f := Fields.written (alignmentAttributes a)
    Alignment.mk (horizontalAlign (f.get? "horizontal")) (verticalAlign (f.get? "vertical"))
      (f.flag "wrapText" false)) = a := by
  obtain ⟨horizontal, vertical, wrap⟩ := a
  cases horizontal <;> cases vertical <;> cases wrap <;> decide

theorem protection_attributes (p : Protection) :
    areNames (protectionAttributes p) = true ∧
    (let f := Fields.written (protectionAttributes p)
    Protection.mk (f.flag "locked" true) (f.flag "hidden" false)) = p := by
  obtain ⟨locked, hidden⟩ := p
  cases locked <;> cases hidden <;> decide

theorem areNames_record (f : CellFormat) (i : Nat) : areNames (f.recordAttributes i) = true := by
  simp +decide [areNames, recordAttributes]

theorem writes_alignment (a : Alignment) : Writes (alignmentElement a) (alignmentTree a) := by
  unfold alignmentElement alignmentTree
  split
  case isTrue => exact writes_nil
  case isFalse => exact writes_element (by decide) (alignment_attributes a).1 writes_nil

theorem writes_protection (p : Protection) : Writes (protectionElement p) (protectionTree p) := by
  unfold protectionElement protectionTree
  split
  case isTrue => exact writes_nil
  case isFalse => exact writes_element (by decide) (protection_attributes p).1 writes_nil

end CellFormat

namespace StyleTree

theorem lastNamed_append (names : List String) (l l' : List Tag) :
    lastNamed names (l ++ l') = (lastNamed names l').or (lastNamed names l) := by
  unfold lastNamed
  rw [List.filter_append, List.getLast?_append]
  cases (l'.filter _).getLast? <;> rfl

theorem children_append (es es' : Elements) :
    children (es ++ es') = children es ++ children es' := by
  unfold children
  rw [Elements.list_append, List.map_append]

theorem lastNamed_single {names : List String} {name : String}
    {attributes : List (String × String)} (h : areNames attributes = true) (es : Elements) :
    lastNamed names (children (.single name attributes es)) =
      if localName name ∈ names then some (Fields.written attributes) else none := by
  have hchildren : children (.single name attributes es) = [tagOf name attributes] := rfl
  rw [hchildren, ← @fields_tagOf name _ h]
  unfold lastNamed
  split
  case isTrue hname => simp [hname]
  case isFalse hname => simp [hname]

end StyleTree

namespace CellFormat

theorem lastNamed_flag {names : List String} {name : String} (on : Bool) :
    lastNamed names (children (flagTree name on)) =
      if localName name ∈ names ∧ on = true then some [] else none := by
  cases on with
  | false => simp [flagTree]; rfl
  | true => simp only [flagTree, if_true, and_true]; exact lastNamed_single rfl _

theorem lastNamed_color {names : List String} {name : String} (color : Option Nat) :
    lastNamed names (children (colorTree name color)) =
      if localName name ∈ names then color.map fun c => Fields.written [("rgb", colorText c)]
      else none := by
  cases color with
  | none => simp [colorTree]; rfl
  | some c => exact lastNamed_single (by simp +decide [areNames]) _

variable {f : CellFormat}

theorem font_fontTree (h : f.Sound) :
    (font (children f.fontTree)).bold = f.bold ∧ (font (children f.fontTree)).italic = f.italic ∧
      (font (children f.fontTree)).color = f.fontColor := by
  have hsize : areNames [("val", f.fontSize)] = true := by simp +decide [areNames]
  have hname : areNames [("val", f.fontName)] = true := by simp +decide [areNames]
  have hcolor : (f.fontColor.map fun c => Fields.written [("rgb", colorText c)]).bind color? =
      f.fontColor := by
    cases hc : f.fontColor with
    | none => rfl
    | some c => exact color?_colorText (h.fontColor c hc)
  simp only [font, fontTree, children_append, lastNamed_append, lastNamed_flag, lastNamed_color,
    lastNamed_single hsize, lastNamed_single hname]
  simp +decide [hcolor]
  constructor
  · cases f.bold <;> rfl
  · cases f.italic <;> rfl

theorem foregrounds_patternFill (type : String) (es : Elements) :
    foregrounds (.single "patternFill" [("patternType", type)] es) =
      if type = "solid" then (es.named "fgColor").map (·.1) else [] := by
  have hfields : fields (tagOf "patternFill" [("patternType", type)]) = [("patternType", type)] := by
    rw [fields_tagOf (by simp +decide [areNames])]
    simp +decide [Fields.written, localName_plain]
  unfold foregrounds
  rw [Elements.named_single, if_pos (by decide), List.flatMap_singleton]
  dsimp only
  rw [hfields]
  simp [Fields.get?]

theorem fill_fillTree (h : f.Sound) : fill f.fillTree = if f.solid then f.fillColor else none := by
  unfold fill fillTree
  rw [foregrounds_patternFill]
  cases f.solid with
  | false => rfl
  | true =>
    cases hc : f.fillColor with
    | none => rfl
    | some c =>
      have hnamed : (colorTree "fgColor" (some c)).named "fgColor" =
          [(tagOf "fgColor" [("rgb", colorText c)], .nil)] := by
        rw [colorTree, Elements.named_single, if_pos (by decide)]
      simp only [if_true, hnamed, List.map_cons, List.map_nil, List.getLast?_singleton,
        Option.bind_some]
      rw [fields_tagOf (by simp +decide [areNames])]
      exact color?_colorText (h.fillColor c hc)

theorem lastNamed_edge {names : List String} {name : String} (line : BorderLine) :
    lastNamed names (children (edgeTree name line)) =
      if localName name ∈ names then
        some (Fields.written ((lineText line).toList.map ("style", ·))) else none :=
  lastNamed_single (by cases line <;> decide) _

theorem borderLine_lineText (line : BorderLine) :
    borderLine (((Fields.written ((lineText line).toList.map ("style", ·))).get? "style").getD "") =
      line := by
  cases line <;> decide

theorem border_borderTree (f : CellFormat) :
    StyleTree.border (children f.borderTree) = f.border := by
  simp only [StyleTree.border, edge, borderTree, children_append, lastNamed_append, lastNamed_edge]
  simp +decide [borderLine_lineText]

theorem lastNamed_alignment {names : List String} (a : Alignment) :
    lastNamed names (children (alignmentTree a)) =
      if "alignment" ∈ names ∧ a ≠ {} then some (Fields.written (alignmentAttributes a))
      else none := by
  unfold alignmentTree
  by_cases h : a = {}
  · rw [if_pos h, if_neg (fun hne => hne.2 h)]
    rfl
  · rw [if_neg h, lastNamed_single (alignment_attributes a).1, localName_plain (by decide)]
    simp [h]

theorem lastNamed_protection {names : List String} (p : Protection) :
    lastNamed names (children (protectionTree p)) =
      if "protection" ∈ names ∧ p ≠ {} then some (Fields.written (protectionAttributes p))
      else none := by
  unfold protectionTree
  by_cases h : p = {}
  · rw [if_pos h, if_neg (fun hne => hne.2 h)]
    rfl
  · rw [if_neg h, lastNamed_single (protection_attributes p).1, localName_plain (by decide)]
    simp [h]

theorem alignment_recordTree (f : CellFormat) :
    StyleTree.alignment (children f.recordTree) = f.alignment := by
  simp only [StyleTree.alignment, recordTree, children_append, lastNamed_append,
    lastNamed_alignment, lastNamed_protection]
  by_cases h : f.alignment = {}
  · simp [h]
  · simpa [h] using (alignment_attributes f.alignment).2

theorem protection_recordTree (f : CellFormat) :
    StyleTree.protection (children f.recordTree) = f.protection := by
  simp only [StyleTree.protection, recordTree, children_append, lastNamed_append,
    lastNamed_alignment, lastNamed_protection]
  by_cases h : f.protection = {}
  · simp [h]
  · simpa [h] using (protection_attributes f.protection).2

end CellFormat

section

open Elements

def code? (f : CellFormat × Nat) : Option (Nat × String) :=
  match f.1.number with
  | .index _ => none
  | .code s => some (f.2, s)

def codeElement (code : Nat × String) : String :=
  element "numFmt"
    [("numFmtId", Number.natText (firstFreeIndex + code.1)), ("formatCode", code.2)] []

def codesTree (codes : List (Nat × String)) : Elements :=
  if codes.isEmpty then .nil
  else
    single "numFmts" [("count", Number.natText codes.length)]
      (each "numFmt"
        (fun code => [("numFmtId", Number.natText (firstFreeIndex + code.1)), ("formatCode", code.2)])
        (fun _ => .nil) codes)

def plainFillTree (type : String) : Elements :=
  single "fill" [] (single "patternFill" [("patternType", type)] .nil)

def fontsTree (formats : List CellFormat) : Elements :=
  each "font" (fun _ => []) CellFormat.fontTree formats

def fillsTree (formats : List CellFormat) : Elements :=
  plainFillTree "none" ++ (plainFillTree "gray125" ++
    each "fill" (fun _ => []) CellFormat.fillTree formats)

def bordersTree (formats : List CellFormat) : Elements :=
  each "border" (fun _ => []) CellFormat.borderTree formats

def recordsTree (formats : List CellFormat) : Elements :=
  each "xf" (fun (f, i) => CellFormat.recordAttributes f i) (fun (f, _) => f.recordTree)
    formats.zipIdx

def stylesTree (formats : List CellFormat) : Elements :=
  let counted (name : String) (n : Nat) (es : Elements) :=
    single name [("count", Number.natText n)] es
  codesTree (formats.zipIdx.filterMap code?) ++
    (counted "fonts" formats.length (fontsTree formats) ++
      (counted "fills" (formats.length + 2) (fillsTree formats) ++
        (counted "borders" formats.length (bordersTree formats) ++
          (counted "cellStyleXfs" 1
              (single "xf" [("numFmtId", "0"), ("fontId", "0"), ("fillId", "0"), ("borderId", "0")]
                .nil) ++
            (counted "cellXfs" formats.length (recordsTree formats) ++
              counted "cellStyles" 1
                (single "cellStyle" [("name", "Normal"), ("xfId", "0"), ("builtinId", "0")]
                  .nil))))))

end

theorem flatten_numberElements (l : List (CellFormat × Nat)) :
    (l.map fun (f, i) => numberElement i f.number).flatten =
      (l.filterMap code?).map codeElement := by
  induction l with
  | nil => rfl
  | cons p l ih =>
    obtain ⟨f, i⟩ := p
    rw [List.map_cons, List.flatten_cons, ih, List.filterMap_cons]
    cases hf : f.number <;> simp [code?, hf, numberElement, codeElement]

theorem areNames_count (n : Nat) : areNames [("count", Number.natText n)] = true := by
  simp +decide [areNames]

theorem writes_counted {name : String} {l : List String} {es : Elements} {n : Nat}
    (hname : isName name = true) (hlength : l.length = n) (h : Writes l es) :
    Writes [counted name l] (.single name [("count", Number.natText n)] es) := by
  subst hlength
  exact writes_element hname (areNames_count _) h

theorem writes_codes (codes : List (Nat × String)) :
    Writes (if (codes.map codeElement).isEmpty then [] else [counted "numFmts" (codes.map codeElement)])
      (codesTree codes) := by
  unfold codesTree
  rw [List.isEmpty_map]
  split
  case isTrue => exact writes_nil
  case isFalse =>
    exact writes_counted (by decide) (List.length_map _)
      (writes_each (by decide) (fun _ _ => by simp +decide [areNames]) (fun _ _ => writes_nil))

theorem writes_styles (formats : List CellFormat) :
    let root := Elements.single "styleSheet" [("xmlns", mainNamespace)] (stylesTree formats)
    Marked (stylesPart formats).toList root (.text [byte '\n'] :: root.events) := by
  have hplain (type : String) : Writes
      [element "fill" [] [element "patternFill" [("patternType", type)] []]] (plainFillTree type) :=
    writes_element (by decide) rfl
      (writes_element (by decide) (by simp +decide [areNames]) writes_nil)
  have hfonts : Writes (formats.map fontElement) (fontsTree formats) :=
    writes_each (by decide) (fun _ _ => rfl) fun f _ => f.writes_font
  have hfills : Writes (formats.map fillElement) (.each "fill" (fun _ => []) CellFormat.fillTree formats) :=
    writes_each (by decide) (fun _ _ => rfl) fun f _ => f.writes_fill
  have hborders : Writes (formats.map borderElement) (bordersTree formats) :=
    writes_each (by decide) (fun _ _ => rfl) fun f _ => f.writes_border
  have hrecords : Writes (formats.zipIdx.map fun (f, i) => recordElement i f) (recordsTree formats) :=
    writes_each (by decide) (fun _ _ => CellFormat.areNames_record _ _)
      fun f _ => (CellFormat.writes_alignment _).append (CellFormat.writes_protection _)
  unfold stylesPart
  rw [flatten_numberElements]
  refine marked_document (writes_element (by decide) rfl ?_)
  refine (writes_codes _).append ?_
  refine (writes_counted (by decide) (List.length_map _) hfonts).cons ?_
  refine (writes_counted (by decide) (by simp) ((hplain _).cons ((hplain _).cons hfills))).cons ?_
  refine (writes_counted (by decide) (List.length_map _) hborders).cons ?_
  refine (writes_counted (by decide) rfl (writes_element (by decide) (by decide) writes_nil)).cons ?_
  refine (writes_counted (by decide) (by simp) hrecords).cons ?_
  exact writes_counted (by decide) rfl (writes_element (by decide) (by decide) writes_nil)

section

open Elements

theorem fits_flag {p q : Place} {name : String} (h : p.next? (localName name) = some q)
    (on : Bool) : fits p (flagTree name on) = true := by
  cases on with
  | false => rfl
  | true => exact fits_single rfl h rfl

theorem fits_color {p q : Place} {name : String} (h : p.next? (localName name) = some q)
    (color : Option Nat) : fits p (colorTree name color) = true := by
  cases color with
  | none => rfl
  | some c => exact fits_single (by simp +decide [areNames]) h rfl

namespace CellFormat

variable (f : CellFormat)

theorem fits_font : fits (.entry .fonts) f.fontTree = true :=
  fits_append (fits_append (fits_append (fits_append
    (fits_flag (q := .beyond .fonts) (by decide) _) (fits_flag (q := .beyond .fonts) (by decide) _))
    (fits_single (q := .beyond .fonts) (by simp +decide [areNames]) (by decide) rfl))
    (fits_color (q := .beyond .fonts) (by decide) _))
    (fits_single (q := .beyond .fonts) (by simp +decide [areNames]) (by decide) rfl)

theorem fits_fill : fits (.entry .fills) f.fillTree = true :=
  fits_single (q := .pattern) (by simp +decide [areNames]) (by decide)
    (fits_color (q := .beyond .fills) (by decide) _)

theorem fits_edge {name : String}
    (h : (Place.entry .borders).next? (localName name) = some (.beyond .borders))
    (line : BorderLine) : fits (.entry .borders) (edgeTree name line) = true :=
  fits_single (by cases line <;> decide) h rfl

theorem fits_border : fits (.entry .borders) f.borderTree = true :=
  fits_append (fits_append (fits_append (fits_edge (by decide) _) (fits_edge (by decide) _))
    (fits_edge (by decide) _)) (fits_edge (by decide) _)

theorem fits_record : fits (.entry .records) f.recordTree = true := by
  refine fits_append ?_ ?_
  · unfold alignmentTree
    split
    case isTrue => rfl
    case isFalse =>
      exact fits_single (q := .beyond .records) (alignment_attributes _).1 (by decide) rfl
  · unfold protectionTree
    split
    case isTrue => rfl
    case isFalse =>
      exact fits_single (q := .beyond .records) (protection_attributes _).1 (by decide) rfl

end CellFormat

theorem fits_stylesTree (formats : List CellFormat) : fits .root (stylesTree formats) = true := by
  have hcodes (codes : List (Nat × String)) : fits .root (codesTree codes) = true := by
    unfold codesTree
    split
    case isTrue => rfl
    case isFalse =>
      exact fits_single (q := .within .numberFormats) (areNames_count _) (by decide)
        (fits_each (q := .entry .numberFormats) (fun _ _ => by simp +decide [areNames]) (by decide)
          fun _ _ => rfl)
  have hplain (type : String) : fits (.within .fills) (plainFillTree type) = true :=
    fits_single (q := .entry .fills) rfl (by decide)
      (fits_single (q := .pattern) (by simp +decide [areNames]) (by decide) rfl)
  refine fits_append (hcodes _) (fits_append ?_ (fits_append ?_ (fits_append ?_ (fits_append ?_
    (fits_append ?_ ?_)))))
  · exact fits_single (q := .within .fonts) (areNames_count _) (by decide)
      (fits_each (q := .entry .fonts) (fun _ _ => rfl) (by decide) fun f _ => f.fits_font)
  · exact fits_single (q := .within .fills) (areNames_count _) (by decide)
      (fits_append (hplain _) (fits_append (hplain _)
        (fits_each (q := .entry .fills) (fun _ _ => rfl) (by decide) fun f _ => f.fits_fill)))
  · exact fits_single (q := .within .borders) (areNames_count _) (by decide)
      (fits_each (q := .entry .borders) (fun _ _ => rfl) (by decide) fun f _ => f.fits_border)
  · decide
  · exact fits_single (q := .within .records) (areNames_count _) (by decide)
      (fits_each (q := .entry .records) (fun _ _ => CellFormat.areNames_record _ _) (by decide)
        fun f _ => f.1.fits_record)
  · decide

end

section

open Elements

variable (formats : List CellFormat)

theorem named_codesTree {name : String} (h : name ≠ "numFmts") (codes : List (Nat × String)) :
    (codesTree codes).named name = [] := by
  unfold codesTree
  split
  case isTrue => rfl
  case isFalse => rw [named_single, if_neg (by rw [localName_plain (by decide)]; exact Ne.symm h)]

theorem entries_fonts : entries (stylesTree formats) .fonts =
    formats.map fun f => (tagOf "font" [], f.fontTree) := by
  simp only [entries, Section.title, Section.entry, stylesTree, named_append, named_single]
  simp +decide [named_codesTree, fontsTree, named_each (show localName "font" = "font" by decide)]

theorem entries_fills : entries (stylesTree formats) .fills =
    (tagOf "fill" [], single "patternFill" [("patternType", "none")] .nil) ::
      (tagOf "fill" [], single "patternFill" [("patternType", "gray125")] .nil) ::
        formats.map fun f => (tagOf "fill" [], f.fillTree) := by
  simp only [entries, Section.title, Section.entry, stylesTree, named_append, named_single]
  simp +decide [named_codesTree, fillsTree, plainFillTree, named_append, named_single,
    named_each (show localName "fill" = "fill" by decide)]

theorem entries_borders : entries (stylesTree formats) .borders =
    formats.map fun f => (tagOf "border" [], f.borderTree) := by
  simp only [entries, Section.title, Section.entry, stylesTree, named_append, named_single]
  simp +decide [named_codesTree, bordersTree,
    named_each (show localName "border" = "border" by decide)]

theorem entries_records : entries (stylesTree formats) .records =
    formats.zipIdx.map fun p => (tagOf "xf" (p.1.recordAttributes p.2), p.1.recordTree) := by
  simp only [entries, Section.title, Section.entry, stylesTree, named_append, named_single]
  simp +decide [named_codesTree, recordsTree, named_each (show localName "xf" = "xf" by decide)]

theorem index_recordAttributes {f : CellFormat} {i : Nat} (h : i + 2 ≤ Number.greatestNat64) :
    let r := fields (tagOf "xf" (f.recordAttributes i))
    r.index "fontId" = i ∧ r.index "fillId" = i + 2 ∧ r.index "borderId" = i := by
  have hindex {r : Fields} {key : String} {n : Nat} (hn : n ≤ Number.greatestNat64)
      (hget : r.get? key = some (Number.natText n)) : r.index key = n := by
    rw [Fields.index, hget]
    change ((Number.readUnsigned? _ (Number.natText n).toList).getD 0) = n
    rw [Number.natText, String.toList_ofList, readUnsigned?_natDigits hn]
    rfl
  intro r
  have hr : r = Fields.written (f.recordAttributes i) := fields_tagOf (f.areNames_record i)
  rw [hr]
  refine ⟨hindex (by omega) ?_, hindex h ?_, hindex (by omega) ?_⟩
  all_goals
    simp +decide [Fields.written, Fields.get?, CellFormat.recordAttributes, localName_plain,
      List.lookup_cons]

variable {formats} in
theorem look_style (hsound : ∀ f ∈ formats, f.Sound)
    (hcount : formats.length + 1 ≤ Number.greatestNat64) {f : CellFormat} {i : Nat}
    (hf : formats[i]? = some f) :
    look (StyleTree.style (stylesTree formats) (tagOf "xf" (f.recordAttributes i), f.recordTree)) =
      f.look := by
  have hi : i < formats.length := (List.getElem?_eq_some_iff.1 hf).1
  obtain ⟨hfont, hfill, hborder⟩ := index_recordAttributes (f := f) (i := i) (by omega)
  have hfonts : (fonts (stylesTree formats)).getD i {} = StyleTree.font (children f.fontTree) := by
    rw [fonts, entries_fonts, List.map_map, List.getD_eq_getElem?_getD, List.getElem?_map, hf]
    rfl
  have hfills : (fills (stylesTree formats)).getD (i + 2) none = StyleTree.fill f.fillTree := by
    rw [fills, entries_fills, List.map_cons, List.map_cons, List.map_map,
      List.getD_eq_getElem?_getD, List.getElem?_cons_succ, List.getElem?_cons_succ,
      List.getElem?_map, hf]
    rfl
  have hborders : (borders (stylesTree formats)).getD i {} =
      StyleTree.border (children f.borderTree) := by
    rw [borders, entries_borders, List.map_map, List.getD_eq_getElem?_getD, List.getElem?_map, hf]
    rfl
  have hs := hsound f (List.mem_of_getElem? hf)
  obtain ⟨hbold, hitalic, hcolor⟩ := CellFormat.font_fontTree hs
  unfold look StyleTree.style ownFont CellFormat.look
  simp only [hfont, hfill, hborder, hfonts, hfills, hborders, hbold, hitalic, hcolor,
    CellFormat.fill_fillTree hs, CellFormat.border_borderTree, CellFormat.alignment_recordTree,
    CellFormat.protection_recordTree]

variable {formats} in
/-- The style part is read as one style for each format, which looks as the format does. -/
theorem look_styles (hsound : ∀ f ∈ formats, f.Sound)
    (hcount : formats.length + 1 ≤ Number.greatestNat64) :
    (StyleTree.styles (stylesTree formats)).map look = formats.map CellFormat.look := by
  rw [StyleTree.styles, entries_records, List.map_map, List.map_map]
  refine List.ext_getElem? fun i => ?_
  rw [List.getElem?_map, List.getElem?_map, List.getElem?_zipIdx, Option.map_map]
  cases hf : formats[i]? with
  | none => rfl
  | some f =>
    change some (look _) = some f.look
    rw [Nat.zero_add, look_style hsound hcount hf]

end

end SheetTemplate.Xlsx
