import SheetTemplate.Book.Workbook

namespace SheetTemplate.Preview

def placesOf (code : List Char) : Nat :=
  match code.dropWhile (· != '.') with
  | [] => 0
  | _ :: tail => (tail.takeWhile (· == '0')).length

def formatted (code : String) (x : Float) : String :=
  let places := placesOf code.toList
  if code.toList.getLast? = some '%' then Number.placesText places (x * 100) ++ "%"
  else Number.placesText places x

def cellText (book : Workbook) (s : Sheet) (c : CellRef) : String :=
  match s.valueAt c with
  | .float x =>
    if Number.isFinite x then
      match (book.styles[s.styleAt c]?).map Style.numberFormat with
      | some (.custom code) => formatted code x
      | _ => (CellValue.float x).display
    else ""
  | v => v.display

def escapeChar : Char → List Char
  | '|' => ['\\', '|']
  | '\n' => [' ']
  | '\r' => []
  | c => [c]

def escape (s : String) : String := String.ofList (s.toList.flatMap escapeChar)

def tableLine (first : String) (cells : List String) : String :=
  "| " ++ first ++ " |" ++ String.join (cells.map fun c => " " ++ c ++ " |")

def ruleLine (width : Nat) : String := "|---|" ++ String.join (List.replicate width "---|")

def tableLines (book : Workbook) (s : Sheet) (a : Area) : List String :=
  let cols := List.range' a.left a.width
  tableLine " " (cols.map CellRef.columnText) :: ruleLine a.width ::
    (List.range' a.top a.height).map fun row =>
      tableLine (Number.natText (row + 1))
        (cols.map fun col => escape (cellText book s ⟨row, col⟩))

def sheetLines (book : Workbook) (s : Sheet) : List String :=
  ("# " ++ s.name) :: "" ::
    match s.extent? with
    | none => ["*Empty sheet*"]
    | some a => tableLines book s a

def lines (book : Workbook) : List String :=
  List.flatten ((book.sheets.map (sheetLines book)).intersperse [""])

def text (book : Workbook) : String := String.join ((lines book).map (· ++ "\n"))

end SheetTemplate.Preview
