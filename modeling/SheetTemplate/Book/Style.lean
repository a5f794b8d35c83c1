import SheetTemplate.Text.Lowercase

namespace SheetTemplate

structure Font where
  bold : Bool := false
  italic : Bool := false
  name : Option String := none
  size : Option Float := none
  color : Option Nat := none
deriving BEq

inductive BorderLine where
  | none
  | thin
  | medium
  | thick
  | dashed
  | dotted
  | double
deriving Repr, DecidableEq

structure Border where
  left : BorderLine := .none
  right : BorderLine := .none
  top : BorderLine := .none
  bottom : BorderLine := .none
deriving Repr, DecidableEq

inductive HorizontalAlign where
  | general
  | left
  | center
  | right
  | fill
  | justify
deriving Repr, DecidableEq

inductive VerticalAlign where
  | bottom
  | center
  | top
deriving Repr, DecidableEq

structure Alignment where
  horizontal : HorizontalAlign := .general
  vertical : VerticalAlign := .bottom
  wrap : Bool := false
deriving Repr, DecidableEq

structure Protection where
  locked : Bool := true
  hidden : Bool := false
deriving Repr, DecidableEq

inductive NumberFormat where
  | general
  | builtin (index : Nat)
  | custom (code : String)
deriving Repr, DecidableEq

def NumberFormat.ofCode (code : String) : NumberFormat :=
  if Text.equalsIgnoringCase code "general" then general else custom code

structure Style where
  font : Font := {}
  fill : Option Nat := none
  border : Border := {}
  alignment : Alignment := {}
  protection : Protection := {}
  decimalPlaces : Option Nat := none
  numberFormat : NumberFormat := .general
deriving BEq

def Style.withDisplayFormat (s : Style) (code : String) : Style :=
  { s with numberFormat := .ofCode code }

end SheetTemplate
