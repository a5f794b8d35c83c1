import SheetTemplate.Formula.Spec
import SheetTemplate.Text.Quoted

namespace SheetTemplate

inductive Direction where
  | cell
  | horizontal
  | vertical
  | table
deriving Repr, DecidableEq

namespace Direction

def ofLetter? : Char → Option Direction
  | 'C' => some cell
  | 'H' => some horizontal
  | 'V' => some vertical
  | 'T' => some table
  | _ => none

/-- How many levels of sequences the layout opens. -/
def level : Direction → Nat
  | cell => 0
  | horizontal | vertical => 1
  | table => 2

end Direction

structure Formula where
  direction : Direction
  format : FormatSpec
  code : String
deriving Repr, DecidableEq

namespace Formula

/-- What stands before the code: a direction letter, perhaps a spec in parentheses, and a bar. -/
structure Head where
  direction : Direction
  spec : Option (List Char)
deriving Repr, DecidableEq

def splitHead? : List Char → Option (Head × List Char)
  | letter :: rest =>
    match Direction.ofLetter? letter, rest with
    | some d, '|' :: code => if code.isEmpty then none else some (⟨d, none⟩, code)
    | some d, '(' :: more =>
      let spec := more.takeWhile (· != ')')
      match more.dropWhile (· != ')') with
      | ')' :: '|' :: code => if code.isEmpty then none else some (⟨d, some spec⟩, code)
      | _ => none
    | _, _ => none
  | [] => none

def body? : List Char → Option (List Char)
  | '\x7b' :: '\x7b' :: rest =>
    match rest.reverse with
    | '\x7d' :: '\x7d' :: c :: inner => some (c :: inner).reverse
    | _ => none
  | _ => none

inductive Reading where
  | ordinary
  /-- It has the outer shape of a formula, but its spec is none. -/
  | invalidSpec (error : FormatSpec.ParseError)
  | formula (f : Formula)
deriving Repr, DecidableEq

def readBody (body : List Char) : Reading :=
  match splitHead? body with
  | none => .formula ⟨.cell, .plain, String.ofList body⟩
  | some (⟨d, none⟩, code) => .formula ⟨d, .plain, String.ofList code⟩
  | some (⟨d, some spec⟩, code) =>
    match FormatSpec.ofText (String.ofList spec) with
    | .ok f => .formula ⟨d, f, String.ofList code⟩
    | .error e => .invalidSpec e

def read (text : String) : Reading :=
  match body? text.toList with
  | none => .ordinary
  | some body => readBody body

def ofText? (text : String) : Option Formula :=
  match read text with
  | .formula f => some f
  | _ => none

end Formula

end SheetTemplate
