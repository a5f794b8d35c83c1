import SheetTemplate.Cell.Ref
import SheetTemplate.Package.Archive
import SheetTemplate.Xlsx.StyleTable

namespace SheetTemplate.Xlsx

open Xml Package

def readEvents? (entries : List Entry) (name : String) : Except SheetError (Option (List Event)) :=
  match entries.find? (·.name == name) with
  | none => .ok none
  | some e =>
    match e.contents with
    | .error (.unsupported _) => .error (.package "Compression method not supported")
    | .error .corrupt => .error (.io "corrupt part")
    | .ok b =>
      if (String.fromUTF8? b).isSome then .ok (some (strictEvents (toList b)))
      else .error (.io "stream did not contain valid UTF-8")

def readStyledCells (events : List Event) : Except SheetError (List (CellRef × Nat)) := do
  (← Fields.pairs "c" "r" "s" events).mapM fun (r, s) =>
    match CellRef.ofText? r, Number.readUnsigned? Number.greatestNat64 s.toList with
    | none, _ => .error (.invalidRange r)
    | some _, none => .error (.invalidRange (r ++ ": s=" ++ s))
    | some c, some i => .ok (c, i)

def targetPart (target : String) : String :=
  if target.startsWith "/" then String.ofList (target.toList.drop 1) else "xl/" ++ target

def readSheetStyles (entries : List Entry) (targets : List (String × String)) :
    List (String × String) → Except SheetError (List (String × List (CellRef × Nat)))
  | [] => .ok []
  | (name, id) :: rest =>
    match targets.reverse.lookup id with
    | none => readSheetStyles entries targets rest
    | some target => do
      match ← readEvents? entries (targetPart target) with
      | none => readSheetStyles entries targets rest
      | some events => do
        let cells ← readStyledCells events
        let more ← readSheetStyles entries targets rest
        pure ((name, cells) :: more)

structure CellStyles where
  styles : List Style
  /-- Styled cells by sheet; the last of a name counts. -/
  sheets : List (String × List (CellRef × Nat))

def CellStyles.find (c : CellStyles) (sheet : String) : List (CellRef × Nat) :=
  (c.sheets.reverse.lookup sheet).getD []

def readCellStyles (entries : List Entry) : Except SheetError CellStyles := do
  let styles ←
    match ← readEvents? entries "xl/styles.xml" with
    | some events => readStyles events
    | none => pure []
  match ← readEvents? entries "xl/workbook.xml", ← readEvents? entries "xl/_rels/workbook.xml.rels" with
  | some workbook, some relationships => do
    let targets ← Fields.pairs "Relationship" "Id" "Target" relationships
    let sheets ← Fields.pairs "sheet" "name" "id" workbook
    pure ⟨styles, ← readSheetStyles entries targets sheets⟩
  | _, _ => pure ⟨styles, []⟩

end SheetTemplate.Xlsx
