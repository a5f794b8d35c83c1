import Std.Data.TreeMap
import SheetTemplate.Cell.Area
import SheetTemplate.Native.References
import SheetTemplate.Number.Decimal

namespace SheetTemplate

inductive CellValue where
  | empty
  | text (s : String)
  | int (n : Int)
  | float (x : Float)
  | bool (b : Bool)
  /-- A native formula without its equals sign. -/
  | formula (s : String)

namespace CellValue

def text? : CellValue → Option String
  | text s => some s
  | _ => none

def display : CellValue → String
  | empty => ""
  | text s => s
  | int n => Number.intText n
  | float x => if Number.isFinite x then Number.plainText x else ""
  | bool b => if b then "TRUE" else "FALSE"
  | formula s => "=" ++ s

def shift (axis : Axis) (start count : Nat) : CellValue → CellValue
  | formula s => formula (shiftReferences axis start count s)
  | v => v

end CellValue

structure Cell where
  value : CellValue := .empty
  style : Nat := 0

def Cell.shift (axis : Axis) (start count : Nat) (c : Cell) : Cell :=
  { c with value := c.value.shift axis start count }

abbrev CellMap := Std.TreeMap CellRef Cell

structure Sheet where
  name : String
  cells : CellMap := {}
  merges : List Area := []

namespace Sheet

def cellAt (s : Sheet) (pos : CellRef) : Cell := s.cells[pos]?.getD {}

def valueAt (s : Sheet) (pos : CellRef) : CellValue := (s.cellAt pos).value

def styleAt (s : Sheet) (pos : CellRef) : Nat := (s.cellAt pos).style

def setValue (s : Sheet) (pos : CellRef) (v : CellValue) : Sheet :=
  { s with cells := s.cells.insert pos { s.cellAt pos with value := v } }

def setStyleAt (s : Sheet) (id : Nat) (pos : CellRef) : Sheet :=
  { s with cells := s.cells.insert pos { s.cellAt pos with style := id } }

def setStyle (s : Sheet) (area : Area) (id : Nat) : Sheet :=
  area.cells.foldl (·.setStyleAt id) s

def merge (s : Sheet) (area : Area) : Sheet := { s with merges := s.merges ++ [area] }

/-- The smallest area that covers all stored cells and merged regions, if there are any. -/
def extent? (s : Sheet) : Option Area :=
  match s.cells.keys.map .ofCell ++ s.merges with
  | [] => none
  | a :: rest => some (rest.foldl .hull a.upright)

def insert (axis : Axis) (start count : Nat) (s : Sheet) : Sheet :=
  if count = 0 then s
  else
    { s with
      cells := .ofList
        (s.cells.toList.map fun (c, v) => (c.shift axis start count, v.shift axis start count))
      merges := s.merges.map (·.shift axis start count) }

end Sheet

end SheetTemplate
