import SheetTemplate.Cell.Ref
import SheetTemplate.Text.Blank

namespace SheetTemplate

structure Area where
  left : Nat
  top : Nat
  right : Nat
  bottom : Nat
deriving Repr, DecidableEq

namespace Area

def ofBounds (left top right bottom : Nat) : Area :=
  ⟨min left right, min top bottom, max left right, max top bottom⟩

def ofCorners (a b : CellRef) : Area := ofBounds a.col a.row b.col b.row

def ofCell (c : CellRef) : Area := ofCorners c c

def sized (c : CellRef) (cols rows : Nat) : Area :=
  ofBounds c.col c.row (c.col + max cols 1 - 1) (c.row + max rows 1 - 1)

def ofChars? (s : List Char) : Option Area :=
  let first := s.takeWhile (· != ':')
  let second :=
    match s.dropWhile (· != ':') with
    | [] => s
    | _ :: rest => rest
  do
    let a ← CellRef.ofChars? (Text.trim first)
    let b ← CellRef.ofChars? (Text.trim second)
    pure (ofCorners a b)

def ofText? (s : String) : Option Area := ofChars? s.toList

def Contains (a : Area) (c : CellRef) : Prop :=
  a.left ≤ c.col ∧ c.col ≤ a.right ∧ a.top ≤ c.row ∧ c.row ≤ a.bottom

instance : Membership CellRef Area := ⟨Contains⟩

instance (c : CellRef) (a : Area) : Decidable (c ∈ a) :=
  inferInstanceAs (Decidable (_ ∧ _ ∧ _ ∧ _))

def topLeft (a : Area) : CellRef := ⟨a.top, a.left⟩

def bottomRight (a : Area) : CellRef := ⟨a.bottom, a.right⟩

def width (a : Area) : Nat := a.right - a.left + 1

def height (a : Area) : Nat := a.bottom - a.top + 1

def upright (a : Area) : Area := ofBounds a.left a.top a.right a.bottom

def hull (a b : Area) : Area :=
  ⟨min a.left b.left, min a.top b.top, max a.right b.right, max a.bottom b.bottom⟩

def toChars (a : Area) : List Char := a.topLeft.toChars ++ ':' :: a.bottomRight.toChars

def toText (a : Area) : String := String.ofList a.toChars

instance : ToString Area := ⟨toText⟩

/-- The ends of an interval after an insertion: an interval at or past the insertion moves, one
around it grows. -/
def shiftEnds (start count low high : Nat) : Nat × Nat :=
  if start ≤ low then (low + count, high + count)
  else if start ≤ high then (low, high + count)
  else (low, high)

def shift (axis : Axis) (start count : Nat) (a : Area) : Area :=
  match axis with
  | .row =>
    let (top, bottom) := shiftEnds start count a.top a.bottom
    { a with top, bottom }
  | .column =>
    let (left, right) := shiftEnds start count a.left a.right
    { a with left, right }

/-- The cells row by row; there are none where the ends are in the wrong order. -/
def cells (a : Area) : List CellRef :=
  (List.range' a.top (a.bottom + 1 - a.top)).flatMap fun row =>
    (List.range' a.left (a.right + 1 - a.left)).map fun col => ⟨row, col⟩

end Area

end SheetTemplate
