import SheetTemplate.Package.Archive
import SheetTemplate.Text.Lowercase
import SheetTemplate.Xlsx.Cells

namespace SheetTemplate.Xlsx

open Xml Package

def findPart? (entries : List Entry) (name : String) : Option Entry :=
  entries.find? fun e => Text.equalsIgnoringCase e.name name

def partEvents? (e : Entry) : Option (List Event) :=
  match e.contents with
  | .ok b => some (lenientEvents (toList b))
  | .error _ => none

/-- The events of a part; those of a part that is not there are `some none`. -/
def findEvents? (entries : List Entry) (name : String) : Option (Option (List Event)) :=
  match findPart? entries name with
  | none => some none
  | some e => (partEvents? e).map some

inductive StyleCheck where
  | outside
  | numberFormats
  | records
  | finished
deriving Repr, DecidableEq

def numberFormatReadable (t : Tag) : Bool :=
  match t.all? with
  | none => false
  | some l => l.all fun (name, v) => name != "formatCode" || (decode? v).isSome

def StyleCheck.step? (c : StyleCheck) (e : Event) : Option StyleCheck :=
  match c, e with
  | .finished, _ => some .finished
  | _, .broken => none
  | .outside, .start t =>
    match localName t.name with
    | "numFmts" => some .numberFormats
    | "cellXfs" => some .records
    | _ => some .outside
  | .outside, .stop n => some (if localName n = "styleSheet" then .finished else .outside)
  | .numberFormats, .start t =>
    if localName t.name = "numFmt" && !numberFormatReadable t then none else some .numberFormats
  | .numberFormats, .stop n => some (if localName n = "numFmts" then .outside else .numberFormats)
  | .records, .stop n => some (if localName n = "cellXfs" then .outside else .records)
  | c, _ => some c

def stylesReadable (events : List Event) : Bool :=
  events.foldlM StyleCheck.step? .outside == some .finished

abbrev Relationships := List (Bytes × String)

def relationship? (t : Tag) : Option (Bytes × String) := do
  let l ← t.all?
  let target ← decode? ((l.lookup "Target").getD [])
  pure ((l.lookup "Id").getD [], target)

def relationships? : List Event → Option Relationships
  | [] => none
  | .broken :: _ => none
  | .text _ :: rest => relationships? rest
  | .stop n :: rest => if localName n = "Relationships" then some [] else relationships? rest
  | .start t :: rest =>
    if localName t.name = "Relationship" then do
      let r ← relationship? t
      let more ← relationships? rest
      pure (r :: more)
    else relationships? rest

def partOfTarget (target : String) : String :=
  if target.startsWith "/xl/" then String.ofList (target.toList.drop 1)
  else if target.startsWith "xl/" then target
  else "xl/" ++ target

def sheetFolders : List String := ["worksheets", "chartsheets", "dialogsheets"]

def sheetStates : List String := ["visible", "hidden", "veryHidden"]

def sheetAttribute? (rels : Relationships) (sheet : String × String) :
    String × Bytes → Option (String × String)
  | ("name", v) => (value? .lenient v).map (·, sheet.2)
  | ("state", v) => do if (← value? .lenient v) ∈ sheetStates then some sheet else none
  | ("r:id", v) | ("relationships:id", v) =>
    (rels.reverse.lookup v).map fun target => (sheet.1, partOfTarget target)
  | _ => some sheet

def sheet? (rels : Relationships) (t : Tag) : Option (String × String) := do
  let (name, part) ← (← t.all?).foldlM (sheetAttribute? rels) ("", "")
  match (part.toList.splitOn '/')[1]? with
  | some folder => if String.ofList folder ∈ sheetFolders then some (name, part) else none
  | none => none

def settingsReadable (t : Tag) : Bool :=
  match findAttribute? "date1904" (attributesFrom (t.attributes.length + 1) none t.attributes) with
  | none => false
  | some none => true
  | some (some v) => (value? .lenient v).isSome

def sheets? (rels : Relationships) : Nat → List Event → Option (List (String × String))
  | 0, _ => none
  | _ + 1, [] => none
  | fuel + 1, e :: rest =>
    match e with
    | .broken => none
    | .text _ => sheets? rels fuel rest
    | .stop n => if localName n = "workbook" then some [] else sheets? rels fuel rest
    | .start t =>
      if localName t.name = "sheet" then do
        let s ← sheet? rels t
        let more ← sheets? rels fuel rest
        pure (s :: more)
      else if t.name = "workbookPr" && !settingsReadable t then none
      else if localName t.name = "definedName" then
        match t.attributeList.findSome? fun
          | .pair "name" v => some v
          | _ => none with
        | none => sheets? rels fuel rest
        | some v => do
          let _ ← value? .lenient v
          let (_, rest) ← readText? t.name rest
          sheets? rels fuel rest
      else sheets? rels fuel rest

structure Outline where
  strings : Array String
  sheets : List (String × String)

def Outline.ofEntries? (entries : List Entry) : Option Outline := do
  let strings ←
    match ← findEvents? entries "xl/sharedStrings.xml" with
    | none => some []
    | some events => sharedStrings? (events.length + 1) events
  if let some events ← findEvents? entries "xl/styles.xml" then
    guard (stylesReadable events)
  let rels ← relationships? (← ← findEvents? entries "xl/_rels/workbook.xml.rels")
  let sheets ←
    match ← findEvents? entries "xl/workbook.xml" with
    | none => some []
    | some events => sheets? rels (events.length + 1) events
  pure ⟨strings.toArray, sheets⟩

def merges? : List Event → Option (List (CellRef × CellRef))
  | [] => some []
  | .broken :: _ => none
  | .start t :: rest =>
    if localName t.name = "mergeCell" then do
      match ← t.find? "ref" with
      | some r => do
        let corners ← dimension? r
        let more ← merges? rest
        pure (corners :: more)
      | none => merges? rest
    else merges? rest
  | .text _ :: rest => merges? rest
  | .stop _ :: rest => merges? rest

def allMerges? (entries : List Entry) (o : Outline) : Option (List (String × (CellRef × CellRef))) := do
  let regions ← o.sheets.mapM fun (name, part) => do
    match ← findEvents? entries part with
    | none => pure []
    | some events => pure ((← merges? events).map (name, ·))
  pure regions.flatten

end SheetTemplate.Xlsx
