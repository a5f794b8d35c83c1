import SheetTemplate.Book.Workbook
import SheetTemplate.Journal
import SheetTemplate.Registry
import SheetTemplate.Render.Merges
import SheetTemplate.Render.Value

namespace SheetTemplate

/-- Whatever answers formulas with grids. -/
class Evaluator (σ : Type) where
  evaluate : Formula → σ → Except EngineError Grid × σ

instance {β : Type} [Language β] : Evaluator (Registry β) := ⟨Registry.evaluate⟩

structure RenderStats where
  sheets : Nat := 0
  formulas : Nat := 0
  rowsInserted : Nat := 0
  colsInserted : Nat := 0
deriving Repr, DecidableEq

structure Pass (κ σ : Type) where
  sheet : Sheet
  styles : List Style
  area : Area
  written : List Area
  merges : κ
  engine : σ
  stats : RenderStats
  journal : Journal

namespace Pass

variable {κ σ : Type}

def topic : String := "flowtable_core::render"

def formulaTopic : String := "flowtable_engine::engine::formula"

def addLine (p : Pass κ σ) (e : LogEntry) : Pass κ σ := { p with journal := p.journal.push e }

def skips [MergeLookup κ] (p : Pass κ σ) (c : CellRef) : Bool × Pass κ σ :=
  if covered p.written c then (true, p)
  else
    let (answer, merges) := MergeLookup.ask p.sheet.merges c p.merges
    (answer, { p with merges })

structure Found where
  text : String
  formula : Formula

def visit [MergeLookup κ] (p : Pass κ σ) (c : CellRef) : Option Found × Pass κ σ :=
  let (skipped, p) := p.skips c
  if skipped then (none, p)
  else
    match (p.sheet.valueAt c).text? with
    | none => (none, p)
    | some text =>
      match Formula.read text with
      | .ordinary => (none, p)
      | .formula f => (some ⟨text, f⟩, p)
      | .invalidSpec e =>
        (none, p.addLine
          ⟨.debug, formulaTopic, "skipping " ++ Text.quoted text ++ ": " ++ e.message⟩)

def findInRow [MergeLookup κ] (p : Pass κ σ) (row : Nat) :
    Nat → Nat → Option (CellRef × Found) × Pass κ σ
  | 0, _ => (none, p)
  | n + 1, col =>
    match p.visit ⟨row, col⟩ with
    | (some f, p) => (some (⟨row, col⟩, f), p)
    | (none, p) => p.findInRow row n (col + 1)

def findInRows [MergeLookup κ] (p : Pass κ σ) :
    Nat → Nat → Option (CellRef × Found) × Pass κ σ
  | 0, _ => (none, p)
  | n + 1, row =>
    match p.findInRow row p.area.width p.area.left with
    | (some f, p) => (some f, p)
    | (none, p) => p.findInRows n (row + 1)

/-- The first formula at or after a cell, row by row within the extent. -/
def find [MergeLookup κ] (p : Pass κ σ) (c : CellRef) : Option (CellRef × Found) × Pass κ σ :=
  match p.findInRow c.row (p.area.right + 1 - c.col) c.col with
  | (some f, p) => (some f, p)
  | (none, p) => p.findInRows (p.area.bottom - c.row) (c.row + 1)

def insert [MergeLookup κ] (p : Pass κ σ) (axis : Axis) (start count : Nat) : Pass κ σ :=
  { p with
    sheet := p.sheet.insert axis start count
    written := p.written.map (·.shift axis start count)
    merges := MergeLookup.invalidate p.merges }

def insertRows [MergeLookup κ] (p : Pass κ σ) (c : CellRef) (g : Grid) : Pass κ σ :=
  if 1 < g.height then
    let p := p.insert .row (c.row + 1) (g.height - 1)
    { p with stats.rowsInserted := p.stats.rowsInserted + (g.height - 1) }
  else p

def insertCols [MergeLookup κ] (p : Pass κ σ) (c : CellRef) (g : Grid) : Pass κ σ :=
  if 1 < g.width then
    let p := p.insert .column (c.col + 1) (g.width - 1)
    { p with stats.colsInserted := p.stats.colsInserted + (g.width - 1) }
  else p

/-- Writes a grid with its first cell at `c` and gives its cells the formula's style with the
number format of the spec. -/
def apply [MergeLookup κ] (p : Pass κ σ) (c : CellRef) (format : FormatSpec) (g : Grid) :
    Except SheetError Unit × Pass κ σ :=
  let p := (p.insertRows c g).insertCols c g
  let p := { p with sheet := p.sheet.writeGrid c format g }
  match p.styles[p.sheet.styleAt c]? with
  | none => (.error (.unknownStyle (p.sheet.styleAt c)), p)
  | some style =>
    let (id, styles) := Workbook.addToTable p.styles (style.withDisplayFormat format.displayFormat)
    let target := Area.sized c g.width g.height
    (.ok (),
      { p with
        styles
        sheet := p.sheet.setStyle target id
        area := { p.area with
          right := p.area.right + (g.width - 1)
          bottom := p.area.bottom + (g.height - 1) }
        written := p.written ++ [target]
        merges := MergeLookup.invalidate p.merges
        stats.formulas := p.stats.formulas + 1 })

def answer [MergeLookup κ] [Evaluator σ] (p : Pass κ σ) (c : CellRef) (f : Found) :
    Except SheetError Unit × Pass κ σ :=
  let p := p.addLine ⟨.debug, topic, p.sheet.name ++ "!" ++ c.toText ++ ": " ++ f.text⟩
  match Evaluator.evaluate f.formula p.engine with
  | (.error e, engine) => (.error (.engine e), { p with engine })
  | (.ok g, engine) => { p with engine }.apply c f.formula.format g

def run [MergeLookup κ] [Evaluator σ] (p : Pass κ σ) (c : CellRef) :
    Nat → Except SheetError Unit × Pass κ σ
  | 0 => (.ok (), (p.find c).2)
  | n + 1 =>
    match p.find c with
    | (none, p) => (.ok (), p)
    | (some (pos, f), p) =>
      match p.answer pos f with
      | (.error e, p) => (.error e, p)
      | (.ok _, p) => p.run ⟨pos.row, pos.col + 1⟩ n

end Pass

def Sheet.textCount (s : Sheet) : Nat :=
  (s.cells.toList.filter fun (_, c) => c.value.text?.isSome).length

end SheetTemplate
