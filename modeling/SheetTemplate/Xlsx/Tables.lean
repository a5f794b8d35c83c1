import SheetTemplate.Data.Json
import SheetTemplate.Number.Decimal
import SheetTemplate.Xlsx.Reading

namespace SheetTemplate.Xlsx

open Package

def StoredValue.toText : StoredValue → String
  | number x => Number.plainText x
  | bool b => if b then "true" else "false"
  | text s => s

def usedColumns (cols : List Nat) : List Nat :=
  match cols with
  | [] => []
  | c :: rest =>
    let first := rest.foldl min c
    List.range' first (rest.foldl max c - first + 1)

def usedRows (values : List (CellRef × StoredValue)) : List Nat :=
  match values.head?, values.getLast? with
  | some (first, _), some (last, _) => List.range' first.row (last.row + 1 - first.row)
  | _, _ => []

def tableOf (values : List (CellRef × StoredValue)) : List (List String) :=
  let texts : Std.TreeMap CellRef String := .ofList (values.map fun (c, v) => (c, v.toText))
  (usedRows values).map fun row =>
    (usedColumns (values.map (·.1.col))).map fun col => (texts[(⟨row, col⟩ : CellRef)]?).getD ""

def sheetValues? (entries : List Entry) (o : Outline) (name : String) :
    Option (List (CellRef × StoredValue)) := do
  let part ← o.sheets.lookup name
  storedValues? o.strings (← partEvents? (← findPart? entries part))

def readTables (b : ByteArray) : Except SheetError DataMap := do
  let entries ← orUnreadable (Package.read? b)
  let o ← orUnreadable (Outline.ofEntries? entries)
  o.sheets.foldlM (fun m (name, _) => do
    let values ← orUnreadable (sheetValues? entries o name)
    pure (m.insert name (.arr ((tableOf values).map fun row => .arr (row.map .str))))) []

end SheetTemplate.Xlsx
