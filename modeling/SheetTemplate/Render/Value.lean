import SheetTemplate.Book.Sheet
import SheetTemplate.Grid

namespace SheetTemplate

/-- The value of a scalar of the spec's type; a scalar of another type is not written. -/
def CellValue.ofScalar? (format : FormatSpec) (s : Scalar) : Option CellValue :=
  if s.matchesKind format.kind then
    match s with
    | .str t => some (.text t)
    | .int n => some (.int n)
    | .float x =>
      some (.float (Number.roundTo (format.storedDecimals?.getD FormatSpec.defaultPrecision) x))
  else none

def Grid.entries (g : Grid) : List (Nat × Nat × Scalar) :=
  g.rows.zipIdx.flatMap fun (row, r) => row.zipIdx.map fun (s, c) => (r, c, s)

def Sheet.writeGrid (s : Sheet) (pos : CellRef) (format : FormatSpec) (g : Grid) : Sheet :=
  g.entries.foldl (fun s (r, c, x) =>
    match CellValue.ofScalar? format x with
    | some v => s.setValue (pos.offset c r) v
    | none => s) s

end SheetTemplate
