import SheetTemplate.Package.Archive
import SheetTemplate.Xlsx.Stored
import SheetTemplate.Xml.Writing

namespace SheetTemplate.Xlsx

open Xml Package Number

def schema (name : String) : String := "http://schemas.openxmlformats.org/" ++ name

def mainNamespace : String := schema "spreadsheetml/2006/main"

def relationNamespace : String := schema "officeDocument/2006/relationships"

def packageNamespace : String := schema "package/2006/"

def hexPair (n : Nat) : List Char :=
  [Nat.digitChar (n / 16 % 16), Nat.digitChar (n % 16)]

def colorText (c : Nat) : String :=
  String.ofList ("FF".toList ++
    (hexPair (c / 65536) ++ hexPair (c / 256) ++ hexPair c).map Char.toUpper)

def colorElement (name : String) (color : Option Nat) : List String :=
  color.toList.map fun c => element name [("rgb", colorText c)] []

def flagElement (name : String) (on : Bool) : List String := if on then [element name [] []] else []

def fontElement (f : CellFormat) : String :=
  element "font" [] (flagElement "b" f.bold ++ flagElement "i" f.italic ++
    [element "sz" [("val", f.fontSize)] []] ++ colorElement "color" f.fontColor ++
    [element "name" [("val", f.fontName)] []])

def fillElement (f : CellFormat) : String :=
  element "fill" []
    [element "patternFill" [("patternType", if f.solid then "solid" else "none")]
      (colorElement "fgColor" f.fillColor)]

def lineText : BorderLine → Option String
  | .none => none
  | .thin => some "thin"
  | .medium => some "medium"
  | .thick => some "thick"
  | .dashed => some "dashed"
  | .dotted => some "dotted"
  | .double => some "double"

def edgeElement (name : String) (line : BorderLine) : String :=
  element name ((lineText line).toList.map ("style", ·)) []

def borderElement (f : CellFormat) : String :=
  element "border" []
    [edgeElement "left" f.border.left, edgeElement "right" f.border.right,
      edgeElement "top" f.border.top, edgeElement "bottom" f.border.bottom]

def horizontalText : HorizontalAlign → Option String
  | .general => none
  | .left => some "left"
  | .center => some "center"
  | .right => some "right"
  | .fill => some "fill"
  | .justify => some "justify"

def verticalText : VerticalAlign → Option String
  | .bottom => none
  | .center => some "center"
  | .top => some "top"

def alignmentElement (a : Alignment) : List String :=
  if a = {} then []
  else
    [element "alignment"
      ((horizontalText a.horizontal).toList.map ("horizontal", ·) ++
        (verticalText a.vertical).toList.map ("vertical", ·) ++
        (if a.wrap then [("wrapText", "1")] else [])) []]

def protectionElement (p : Protection) : List String :=
  if p = {} then []
  else
    [element "protection"
      ((if p.locked then [] else [("locked", "0")]) ++ (if p.hidden then [("hidden", "1")] else []))
      []]

def firstFreeIndex : Nat := 164

def numberIndex (i : Nat) : NumberCode → Nat
  | .index n => n
  | .code _ => firstFreeIndex + i

def numberElement (i : Nat) : NumberCode → List String
  | .index _ => []
  | .code s => [element "numFmt" [("numFmtId", natText (firstFreeIndex + i)), ("formatCode", s)] []]

def recordElement (i : Nat) (f : CellFormat) : String :=
  element "xf"
    [("numFmtId", natText (numberIndex i f.number)), ("fontId", natText i),
      ("fillId", natText (i + 2)), ("borderId", natText i), ("xfId", "0"),
      ("applyNumberFormat", "1"), ("applyFont", "1"), ("applyFill", "1"), ("applyBorder", "1"),
      ("applyAlignment", "1"), ("applyProtection", "1")]
    (alignmentElement f.alignment ++ protectionElement f.protection)

def counted (name : String) (entries : List String) : String :=
  element name [("count", natText entries.length)] entries

def stylesPart (formats : List CellFormat) : String :=
  let codes := (formats.zipIdx.map fun (f, i) => numberElement i f.number).flatten
  let plainFill (type : String) :=
    element "fill" [] [element "patternFill" [("patternType", type)] []]
  document (element "styleSheet" [("xmlns", mainNamespace)]
    ((if codes.isEmpty then [] else [counted "numFmts" codes]) ++
      [counted "fonts" (formats.map fontElement),
        counted "fills" (plainFill "none" :: plainFill "gray125" :: formats.map fillElement),
        counted "borders" (formats.map borderElement),
        counted "cellStyleXfs"
          [element "xf" [("numFmtId", "0"), ("fontId", "0"), ("fillId", "0"), ("borderId", "0")] []],
        counted "cellXfs" (formats.zipIdx.map fun (f, i) => recordElement i f),
        counted "cellStyles"
          [element "cellStyle" [("name", "Normal"), ("xfId", "0"), ("builtinId", "0")] []]]))

def spellChar (c : Char) : String :=
  if c.toNat < 32 && c != '\t' && c != '\n' || c.toNat = 0xFFFE || c.toNat = 0xFFFF then
    let digits := (hexPair (c.toNat / 256) ++ hexPair c.toNat).map Char.toUpper
    "_x" ++ String.ofList digits ++ "_"
  else c.toString

def looksSpelled (s : List Char) : Bool :=
  match s with
  | '_' :: 'x' :: rest =>
    rest.length ≥ 5 && (rest.take 4).all (fun c => (hexValue? c).isSome) && rest[4]? == some '_'
  | _ => false

/-- A text that looks like a spelled character has its underscore spelled, so that it is none.
`verbatim` characters are to be written as they are. -/
def spell (verbatim : Nat) : List Char → String
  | [] => ""
  | c :: rest =>
    match verbatim with
    | n + 1 => c.toString ++ spell n rest
    | 0 =>
      if looksSpelled (c :: rest) then "_x005F" ++ c.toString ++ spell 6 rest
      else spellChar c ++ spell 0 rest

def isEdgeBlank (c : Char) : Bool := c == ' ' || c == '\t' || c == '\n'

def stringItem (s : String) : String :=
  if s.startsWith "<r>" && s.endsWith "</r>" then element "si" [] [s]
  else
    let keep := (s.toList.head?.any isEdgeBlank) || (s.toList.getLast?.any isEdgeBlank)
    element "si" []
      [element "t" (if keep then [("xml:space", "preserve")] else []) [escape (spell 0 s.toList)]]

def StoredBook.texts (b : StoredBook) : List String :=
  b.sheets.flatMap fun s => s.cells.toList.filterMap fun (_, c) =>
    match c.content with
    | .text t => some t
    | _ => none

def stringsPart (texts : List String) : String :=
  document (element "sst" [("xmlns", mainNamespace), ("uniqueCount", natText texts.length)]
    (texts.map stringItem))

def cellElement (next : Nat) (c : CellRef) (cell : StoredCell) : String × Nat :=
  let attributes := ("r", c.toText) :: (if cell.format = 0 then [] else [("s", natText cell.format)])
  let value (v : String) := element "v" [] [v]
  match cell.content with
  | .blank => (element "c" attributes [], next)
  | .number x => (element "c" attributes [value (plainText x)], next)
  | .text _ => (element "c" (attributes ++ [("t", "s")]) [value (natText next)], next + 1)
  | .bool b => (element "c" (attributes ++ [("t", "b")]) [value (if b then "1" else "0")], next)
  | .formula s => (element "c" attributes [element "f" [] [escape s], value "0"], next)

def cellElements (next : Nat) : List (CellRef × StoredCell) → List (Nat × String) × Nat
  | [] => ([], next)
  | (c, cell) :: rest =>
    let (e, next) := cellElement next c cell
    let (es, next) := cellElements next rest
    ((c.row, e) :: es, next)

def rowElements (cells : List (Nat × String)) : List String :=
  (cells.splitBy fun a b => a.1 == b.1).map fun run =>
    element "row" [("r", natText ((run.head?.map (·.1)).getD 0 + 1))] (run.map (·.2))

def mergesElement (merges : List Area) : List String :=
  if merges.isEmpty then []
  else [counted "mergeCells" (merges.map fun a => element "mergeCell" [("ref", a.toText)] [])]

def sheetPart (next : Nat) (s : StoredSheet) : String × Nat :=
  let (cells, next) := cellElements next s.cells.toList
  (document (element "worksheet" [("xmlns", mainNamespace)]
    (element "sheetData" [] (rowElements cells) :: mergesElement s.merges)), next)

def sheetParts (next : Nat) : List StoredSheet → List String
  | [] => []
  | s :: rest =>
    let (part, next) := sheetPart next s
    part :: sheetParts next rest

def relationId (i : Nat) : String := "rId" ++ natText (i + 1)

def workbookPart (names : List String) : String :=
  document (element "workbook" [("xmlns", mainNamespace), ("xmlns:r", relationNamespace)]
    [element "sheets" [] (names.zipIdx.map fun (name, i) =>
      element "sheet" [("name", name), ("sheetId", natText (i + 1)), ("r:id", relationId i)] [])])

def relationsPart (targets : List (String × String)) : String :=
  document (element "Relationships" [("xmlns", packageNamespace ++ "relationships")]
    (targets.zipIdx.map fun ((kind, target), i) =>
      element "Relationship"
        [("Id", relationId i), ("Type", relationNamespace ++ "/" ++ kind), ("Target", target)] []))

def sheetTarget (i : Nat) : String := "worksheets/sheet" ++ natText (i + 1) ++ ".xml"

def contentTypesPart (sheetCount : Nat) : String :=
  let sheetml := "application/vnd.openxmlformats-officedocument.spreadsheetml."
  let override (part kind : String) :=
    element "Override" [("PartName", part), ("ContentType", sheetml ++ kind ++ "+xml")] []
  document (element "Types" [("xmlns", packageNamespace ++ "content-types")]
    ([element "Default" [("Extension", "rels"),
        ("ContentType", "application/vnd.openxmlformats-package.relationships+xml")] [],
      element "Default" [("Extension", "xml"), ("ContentType", "application/xml")] [],
      override "/xl/workbook.xml" "sheet.main", override "/xl/styles.xml" "styles",
      override "/xl/sharedStrings.xml" "sharedStrings"] ++
    (List.range sheetCount).map fun i => override ("/xl/" ++ sheetTarget i) "worksheet"))

def StoredBook.parts (b : StoredBook) : List (String × String) :=
  let count := b.sheets.length
  let sheets := (sheetParts 0 b.sheets).zipIdx.map fun (part, i) => ("xl/" ++ sheetTarget i, part)
  let targets := (List.range count).map (fun i => ("worksheet", sheetTarget i)) ++
    [("styles", "styles.xml"), ("sharedStrings", "sharedStrings.xml")]
  [("[Content_Types].xml", contentTypesPart count),
    ("_rels/.rels", relationsPart [("officeDocument", "xl/workbook.xml")]),
    ("xl/workbook.xml", workbookPart (b.sheets.map (·.name))),
    ("xl/_rels/workbook.xml.rels", relationsPart targets),
    ("xl/styles.xml", stylesPart b.formats),
    ("xl/sharedStrings.xml", stringsPart b.texts)] ++ sheets

def StoredBook.bytes (b : StoredBook) : ByteArray :=
  Package.write (b.parts.map fun (name, part) => Entry.ofContents name part.toUTF8)

def write (b : Workbook) : Except SheetError ByteArray := do
  let stored ← store b
  stored.checkNames
  pure stored.bytes

end SheetTemplate.Xlsx
