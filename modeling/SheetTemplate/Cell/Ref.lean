import SheetTemplate.Number.Decimal
import SheetTemplate.Number.Reading

namespace SheetTemplate

open Number

structure CellRef where
  row : Nat
  col : Nat
deriving Repr, DecidableEq

namespace CellRef

instance : Ord CellRef := ⟨compareLex (compareOn row) (compareOn col)⟩

instance : Std.TransOrd CellRef :=
  inferInstanceAs (Std.TransCmp (compareLex (compareOn row) (compareOn col)))

instance : Std.LawfulEqOrd CellRef where
  eq_of_compare {a b} h := by
    obtain ⟨hrow, hcol⟩ := compareLex_eq_eq.1 h
    have hrow : a.row = b.row := Std.LawfulEqCmp.eq_of_compare hrow
    have hcol : a.col = b.col := Std.LawfulEqCmp.eq_of_compare hcol
    cases a; cases b; simp_all

def letterValue (c : Char) : Nat := c.toUpper.toNat - 'A'.toNat + 1

def lettersValue (s : List Char) : Nat := s.foldl (fun n c => 26 * n + letterValue c) 0

def letter (d : Nat) : Char := Char.ofNat ('A'.toNat + d)

def columnLetters (col : Nat) : List Char :=
  if col < 26 then [letter col] else columnLetters (col / 26 - 1) ++ [letter (col % 26)]
termination_by col

def columnText (col : Nat) : String := String.ofList (columnLetters col)

/-- Reads letters followed by digits; both numbers must lie between 1 and `2 ^ 64 - 1`. -/
def ofChars? (s : List Char) : Option CellRef :=
  let letters := s.takeWhile Char.isAlpha
  let digits := s.dropWhile Char.isAlpha
  if letters.isEmpty || greatestNat64 < lettersValue letters then none
  else
    match readNat? greatestNat64 digits with
    | some (row + 1) => some ⟨row, lettersValue letters - 1⟩
    | _ => none

def ofText? (s : String) : Option CellRef := ofChars? s.toList

def toChars (c : CellRef) : List Char := columnLetters c.col ++ natDigits (c.row + 1)

def toText (c : CellRef) : String := String.ofList c.toChars

instance : ToString CellRef := ⟨toText⟩

def offset (c : CellRef) (cols rows : Nat) : CellRef := ⟨c.row + rows, c.col + cols⟩

def invalidMessage (s : String) : String := "Invalid cell reference: " ++ s

end CellRef

inductive Axis where
  | row
  | column
deriving Repr, DecidableEq

namespace Axis

def coordinate : Axis → CellRef → Nat
  | .row, c => c.row
  | .column, c => c.col

def place : Axis → CellRef → Nat → CellRef
  | .row, c, n => { c with row := n }
  | .column, c, n => { c with col := n }

end Axis

/-- Where index `x` goes when `count` places are inserted before index `at`. -/
def shiftIndex (start count x : Nat) : Nat := if x < start then x else x + count

def CellRef.shift (axis : Axis) (start count : Nat) (c : CellRef) : CellRef :=
  axis.place c (shiftIndex start count (axis.coordinate c))

end SheetTemplate
