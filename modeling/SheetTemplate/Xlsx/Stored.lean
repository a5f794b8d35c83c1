import SheetTemplate.Book.Workbook
import SheetTemplate.Xlsx.CellFormat

namespace SheetTemplate.Xlsx

inductive Content where
  | blank
  | number (x : Float)
  | text (s : String)
  | bool (b : Bool)
  | formula (s : String)

structure StoredCell where
  content : Content
  format : Nat

structure StoredSheet where
  name : String
  merges : List Area := []
  cells : Std.TreeMap CellRef StoredCell := {}

structure StoredBook where
  formats : List CellFormat := [{}]
  sheets : List StoredSheet := []

def rowLimit : Nat := 1048576

def columnLimit : Nat := 16384

def textLimit : Nat := 32767

def nameLimit : Nat := 31

def refuse (reason : String) : SheetError := .xlsxWrite reason

def checkPosition (c : CellRef) : Except SheetError Unit :=
  if 0x100000000 ≤ c.row ∨ 0x10000 ≤ c.col then .error (.invalidRange c.toText)
  else .ok ()

def checkLimits (c : CellRef) : Except SheetError Unit :=
  if c.row < rowLimit ∧ c.col < columnLimit then .ok ()
  else .error (refuse "row or column exceeds the limits of a sheet")

def forbiddenInName (c : Char) : Bool := c ∈ "[]:*?/\\".toList

def checkName (name : String) : Except SheetError Unit :=
  let s := name.toList
  if s.isEmpty then .error (refuse "sheet name is blank")
  else if nameLimit < s.length then .error (refuse "sheet name is too long")
  else if s.any forbiddenInName then .error (refuse "sheet name has a forbidden character")
  else if s.head? = some '\'' ∨ s.getLast? = some '\'' then
    .error (refuse "sheet name begins or ends with an apostrophe")
  else .ok ()

def bareFormula (s : String) : String :=
  let dropFirst (c : Char) : List Char → List Char
    | d :: rest => if d = c then rest else d :: rest
    | [] => []
  let s := dropFirst '=' (dropFirst '\x7b' s.toList)
  String.ofList (dropFirst '\x7d' s.reverse).reverse

/-- What is stored of a value; an empty text is a blank. -/
def Content.ofValue (v : CellValue) : Except SheetError Content :=
  match v with
  | .empty => .ok .blank
  | .text s =>
    if s.isEmpty then .ok .blank
    else if textLimit < s.length then .error (refuse "text is too long")
    else .ok (.text s)
  | .int n => .ok (.number (Number.ofInt n))
  | .float x => .ok (if Number.isFinite x then .number x else .blank)
  | .bool b => .ok (.bool b)
  | .formula s => .ok (.formula (bareFormula s))

def StoredSheet.put (s : StoredSheet) (c : CellRef) (cell : StoredCell) : StoredSheet :=
  match cell with
  | ⟨.blank, 0⟩ => { s with cells := s.cells.erase c }
  | cell => { s with cells := s.cells.insert c cell }

def formatIndex (formats : List CellFormat) (f : CellFormat) : Nat × List CellFormat :=
  match formats.findIdx? (· == f) with
  | some i => (i, formats)
  | none => (formats.length, formats ++ [f])

def formatOf (styles : List CellFormat) (id : Nat) : CellFormat := styles[id]?.getD {}

def overlap (a b : Area) : Bool :=
  a.left ≤ b.right && b.left ≤ a.right && a.top ≤ b.bottom && b.top ≤ a.bottom

abbrev StoreState := List CellFormat × StoredSheet

def storeMerge (styles : List CellFormat) (sheet : Sheet) (st : StoreState) (area : Area) :
    Except SheetError StoreState := do
  let (formats, stored) := st
  if area.width = 1 ∧ area.height = 1 then pure st
  else
    checkPosition area.topLeft
    checkPosition area.bottomRight
    checkLimits area.topLeft
    checkLimits area.bottomRight
    if stored.merges.any (overlap area) then throw (refuse "merged regions overlap")
    let (i, formats) := formatIndex formats (formatOf styles (sheet.styleAt area.topLeft))
    let stored := if i = 0 then stored else area.cells.foldl (·.put · ⟨.blank, i⟩) stored
    pure (formats, { stored with merges := stored.merges ++ [area] })

def storeCell (styles : List CellFormat) (st : StoreState) (entry : CellRef × Cell) :
    Except SheetError StoreState := do
  let (formats, stored) := st
  let (c, cell) := entry
  checkPosition c
  match cell with
  | ⟨.empty, 0⟩ => pure st
  | cell => do
    checkLimits c
    let content ← Content.ofValue cell.value
    let (i, formats) := formatIndex formats (formatOf styles cell.style)
    pure (formats, stored.put c ⟨content, i⟩)

def storeSheet (styles : List CellFormat) (formats : List CellFormat) (s : Sheet) :
    Except SheetError StoreState := do
  checkName s.name
  let st ← s.merges.foldlM (storeMerge styles s) (formats, { name := s.name })
  s.cells.toList.foldlM (storeCell styles) st

def storeSheets (styles : List CellFormat) (formats : List CellFormat) :
    List Sheet → Except SheetError StoredBook
  | [] => .ok ⟨formats, []⟩
  | s :: rest => do
    let (formats, stored) ← storeSheet styles formats s
    let book ← storeSheets styles formats rest
    pure { book with sheets := stored :: book.sheets }

def store (b : Workbook) : Except SheetError StoredBook := do
  let stored ← storeSheets (b.styles.map .ofStyle) [{}] b.sheets
  pure (if stored.sheets.isEmpty then { stored with sheets := [{ name := "Sheet1" }] } else stored)

def StoredBook.checkNames (b : StoredBook) : Except SheetError Unit :=
  if (b.sheets.map fun s => Text.lower s.name).Nodup then .ok ()
  else .error (refuse "sheet names are not unique")

end SheetTemplate.Xlsx
