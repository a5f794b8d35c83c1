import SheetTemplate.Book.Workbook
import SheetTemplate.Journal
import SheetTemplate.Xlsx.CellStyles
import SheetTemplate.Xlsx.Formulas
import SheetTemplate.Xlsx.Outline

namespace SheetTemplate.Xlsx

open Xml Package

def StoredValue.cellValue : StoredValue → CellValue
  | number x => .float x
  | bool b => .bool b
  | text s => .text s

structure SheetContents where
  values : List (CellRef × StoredValue)
  formulas : List (CellRef × String)
  styled : List (CellRef × Nat)
  merges : List (CellRef × CellRef)

def formulaValue (s : String) : CellValue :=
  match s.toList with
  | '=' :: rest => .formula (String.ofList rest)
  | _ => .formula s

/-- Writes the contents onto a sheet. `ids` are the places of the records' styles in the style
table; cells with the default style are left as they are. -/
def SheetContents.fill (c : SheetContents) (ids : Array Nat) (s : Sheet) : Sheet :=
  let s := c.values.foldl (fun s (pos, v) => s.setValue pos v.cellValue) s
  let s := c.formulas.foldl (fun s (pos, f) => s.setValue pos (formulaValue f)) s
  let s := c.styled.foldl
    (fun s (pos, i) => if ids[i]?.getD 0 = 0 then s else s.setStyleAt (ids[i]?.getD 0) pos) s
  c.merges.foldl (fun s (a, b) => s.merge (.ofCorners a b)) s

def addStyles (book : Workbook) : List Style → List Nat × Workbook
  | [] => ([], book)
  | s :: rest =>
    let (id, book) := book.addStyle s
    let (ids, book) := addStyles book rest
    (id :: ids, book)

def unreadable : SheetError := .xlsxRead "unreadable workbook"

def orUnreadable {α : Type} (x : Option α) : Except SheetError α :=
  match x with
  | some a => .ok a
  | none => .error unreadable

structure Opened where
  entries : List Entry
  outline : Outline
  merges : List (String × (CellRef × CellRef))
  styles : CellStyles

def Opened.ofBytes (b : ByteArray) : Except SheetError Opened := do
  let entries ← orUnreadable (Package.read? b)
  let outline ← orUnreadable (Outline.ofEntries? entries)
  let merges ← orUnreadable (allMerges? entries outline)
  let styles ← readCellStyles entries
  pure ⟨entries, outline, merges, styles⟩

/-- The contents of a sheet. Of two sheets of one name the cells of the first are taken for both. -/
def Opened.contents? (o : Opened) (name : String) : Option SheetContents := do
  let part ← o.outline.sheets.lookup name
  let events ← partEvents? (← findPart? o.entries part)
  let values ← values? o.outline.strings events
  let formulas ← formulas? events
  pure ⟨values, formulas, o.styles.find name,
    o.merges.filterMap fun (n, m) => if n = name then some m else none⟩

def topic : String := "flowtable_core::storage::xlsx"

def sheetLine (s : Sheet) : String :=
  "read sheet " ++ s.name ++ " (" ++ Number.natText s.cells.size ++ " cells, " ++
    Number.natText s.merges.length ++ " merges)"

def addSheets (o : Opened) (ids : Array Nat) (book : Workbook) : List String → Logged SheetError Workbook
  | [] => pure book
  | name :: rest => do
    let contents ← orUnreadable (o.contents? name)
    let book ← (book.addSheet name).modifySheet name (contents.fill ids)
    let s ← book.sheet name
    note .debug topic (sheetLine s)
    addSheets o ids book rest

def read (b : ByteArray) : Logged SheetError Workbook := do
  let opened ← Opened.ofBytes b
  let (ids, book) := addStyles {} opened.styles.styles
  addSheets opened ids.toArray book (opened.outline.sheets.map (·.1))

end SheetTemplate.Xlsx
