import SheetTemplate.Book.Style
import SheetTemplate.Number.Decimal

namespace SheetTemplate.Xlsx

inductive NumberCode where
  | index (n : Nat)
  | code (s : String)
deriving Repr, DecidableEq

structure CellFormat where
  bold : Bool := false
  italic : Bool := false
  fontName : String := "Calibri"
  fontSize : String := "11"
  fontColor : Option Nat := none
  solid : Bool := false
  fillColor : Option Nat := none
  border : Border := {}
  alignment : Alignment := {}
  protection : Protection := {}
  number : NumberCode := .index 0
deriving Repr, DecidableEq

def validColor (c : Nat) : Bool := c ≤ 0xFFFFFF

/-- Decimal places count only in the general format, and a code without text is none. -/
def NumberCode.ofStyle (s : Style) : NumberCode :=
  match s.numberFormat with
  | .custom "" => .index 0
  | .custom c => .code c
  | .builtin n => .index (if n ≤ 0xFF then n else 0)
  | .general =>
    match s.decimalPlaces with
    | some (n + 1) => .code ("0." ++ String.ofList (List.replicate (n + 1) '0'))
    | _ => .index 0

def CellFormat.ofStyle (s : Style) : CellFormat :=
  { bold := s.font.bold
    italic := s.font.italic
    fontName := s.font.name.getD "Calibri"
    fontSize := (s.font.size.map Number.plainText).getD "11"
    fontColor := s.font.color.filter validColor
    solid := s.fill.isSome
    fillColor := s.fill.filter validColor
    border := s.border
    alignment := s.alignment
    protection := s.protection
    number := .ofStyle s }

end SheetTemplate.Xlsx
