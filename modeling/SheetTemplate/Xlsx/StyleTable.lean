import SheetTemplate.Book.Style
import SheetTemplate.Text.Within
import SheetTemplate.Xlsx.Fields

namespace SheetTemplate.Xlsx

open Xml

def color? (f : Fields) : Option Nat := do
  let s := (← f.get? "rgb").toList
  if s.length < 6 then none
  else
    match s.drop (s.length - 6) with
    | '+' :: digits => Number.readHex? digits
    | digits => Number.readHex? digits

def borderLine (style : String) : BorderLine :=
  match style with
  | "" | "none" => .none
  | "medium" => .medium
  | "thick" => .thick
  | "double" => .double
  | "dotted" => .dotted
  | s => if Text.contains "dash".toList (s.toList.map Char.toLower) then .dashed else .thin

def horizontalAlign : Option String → HorizontalAlign
  | some "left" => .left
  | some "center" | some "centerContinuous" => .center
  | some "right" => .right
  | some "fill" => .fill
  | some "justify" | some "distributed" => .justify
  | _ => .general

def verticalAlign : Option String → VerticalAlign
  | some "top" => .top
  | some "center" => .center
  | _ => .bottom

def builtinCode? : Nat → Option String
  | 1 => some "0"
  | 2 => some "0.00"
  | 3 => some "#,##0"
  | 4 => some "#,##0.00"
  | 9 => some "0%"
  | 10 => some "0.00%"
  | 11 => some "0.00E+00"
  | 49 => some "@"
  | _ => none

structure FormatRecord where
  numberFormat : Nat := 0
  font : Nat := 0
  fill : Nat := 0
  border : Nat := 0
  alignment : Alignment := {}
  protection : Protection := {}

structure StyleTables where
  codes : List (Nat × String) := []
  fonts : List Font := []
  fills : List (Option Nat) := []
  borders : List Border := []
  records : List FormatRecord := []

namespace StyleTables

def numberFormat (t : StyleTables) (index : Nat) : NumberFormat :=
  match t.codes.lookup index with
  | some code => .ofCode code
  | none =>
    if index = 0 then .general
    else
      match builtinCode? index with
      | some code => .custom code
      | none => .builtin index

def defaultFont (t : StyleTables) : Font := t.fonts.head?.getD {}

/-- The font at a place, without the name and size that the default font has too. -/
def ownFont (t : StyleTables) (i : Nat) : Font :=
  let font := t.fonts[i]?.getD {}
  { font with
    name := if font.name == t.defaultFont.name then none else font.name
    size := if font.size == t.defaultFont.size then none else font.size }

def style (t : StyleTables) (r : FormatRecord) : Style :=
  { font := t.ownFont r.font
    fill := (t.fills[r.fill]?).join
    border := t.borders[r.border]?.getD {}
    alignment := r.alignment
    protection := r.protection
    numberFormat := t.numberFormat r.numberFormat }

def styles (t : StyleTables) : List Style := t.records.map t.style

end StyleTables

def fontWith (font : Font) (name : String) (f : Fields) : Font :=
  match name with
  | "b" => { font with bold := f.flag "val" true }
  | "i" => { font with italic := f.flag "val" true }
  | "sz" => { font with size := (f.get? "val").bind (Number.readFloat? ·.toList) }
  | "name" => { font with name := f.get? "val" }
  | "color" => { font with color := color? f }
  | _ => font

def borderWith (border : Border) (name : String) (f : Fields) : Border :=
  let line := borderLine ((f.get? "style").getD "")
  match name with
  | "left" | "start" => { border with left := line }
  | "right" | "end" => { border with right := line }
  | "top" => { border with top := line }
  | "bottom" => { border with bottom := line }
  | _ => border

def numberCode? (f : Fields) : Option (Nat × String) := do
  let index ← Number.readUnsigned? 0xFFFF (← f.get? "numFmtId").toList
  pure (index, ← f.get? "formatCode")

def recordOf (f : Fields) : FormatRecord :=
  let index := f.index "numFmtId"
  { numberFormat := if index ≤ 0xFFFF then index else 0
    font := f.index "fontId"
    fill := f.index "fillId"
    border := f.index "borderId" }

def recordWith (r : FormatRecord) (name : String) (f : Fields) : FormatRecord :=
  match name with
  | "alignment" =>
    { r with alignment :=
        ⟨horizontalAlign (f.get? "horizontal"), verticalAlign (f.get? "vertical"),
          f.flag "wrapText" false⟩ }
  | "protection" => { r with protection := ⟨f.flag "locked" true, f.flag "hidden" false⟩ }
  | _ => r

inductive Section where
  | outside
  | numberFormats
  | fonts
  | fills
  | borders
  | records
  | other
deriving Repr, DecidableEq

def Section.ofName? : String → Option Section
  | "numFmts" => some .numberFormats
  | "fonts" => some .fonts
  | "fills" => some .fills
  | "borders" => some .borders
  | "cellXfs" => some .records
  | "cellStyleXfs" | "cellStyles" | "dxfs" | "tableStyles" | "colors" => some .other
  | _ => none

structure StyleReader where
  inside : Section := .outside
  tables : StyleTables := {}
  font : Option Font := none
  fill : Option (Option Nat) := none
  solid : Bool := false
  border : Option Border := none
  record : Option FormatRecord := none

namespace StyleReader

def enter (r : StyleReader) (name : String) (f : Fields) : StyleReader :=
  match r.inside with
  | .numberFormats =>
    if name = "numFmt" then { r with tables.codes := (numberCode? f).toList ++ r.tables.codes } else r
  | .fonts =>
    { r with font := if name = "font" then some {} else r.font.map (fontWith · name f) }
  | .fills =>
    match name with
    | "fill" => { r with fill := some none }
    | "patternFill" => { r with solid := f.get? "patternType" == some "solid" }
    | "fgColor" => if r.solid then { r with fill := r.fill.map fun _ => color? f } else r
    | _ => r
  | .borders =>
    { r with border := if name = "border" then some {} else r.border.map (borderWith · name f) }
  | .records =>
    { r with record := if name = "xf" then some (recordOf f) else r.record.map (recordWith · name f) }
  | .outside | .other => r

def start (r : StyleReader) (t : Tag) : Except SheetError StyleReader :=
  match Section.ofName? (localName t.name) with
  | some s => .ok { r with inside := s }
  | none => do pure (r.enter (localName t.name) (← Fields.ofTag t))

def stop (r : StyleReader) (name : String) : StyleReader :=
  if (Section.ofName? name).isSome then { r with inside := .outside }
  else
    match r.inside, name with
    | .fonts, "font" => { r with tables.fonts := r.tables.fonts ++ r.font.toList, font := none }
    | .fills, "fill" =>
      { r with tables.fills := r.tables.fills ++ r.fill.toList, fill := none, solid := false }
    | .borders, "border" =>
      { r with tables.borders := r.tables.borders ++ r.border.toList, border := none }
    | .records, "xf" =>
      { r with tables.records := r.tables.records ++ r.record.toList, record := none }
    | _, _ => r

def step (r : StyleReader) : Event → Except SheetError StyleReader
  | .start t => r.start t
  | .stop name => .ok (r.stop (localName name))
  | .text _ => .ok r
  | .broken => .error (.xml "malformed markup")

end StyleReader

def readStyles (events : List Event) : Except SheetError (List Style) := do
  let r ← events.foldlM StyleReader.step {}
  pure r.tables.styles

end SheetTemplate.Xlsx
