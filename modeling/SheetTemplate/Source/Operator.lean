import SheetTemplate.Source.Token

namespace SheetTemplate.Source

inductive Operator where
  | or | and | coalesce
  | equal | different | identical | distinct
  | less | atMost | greater | atLeast | within
  | range | closedRange
  | add | subtract | multiply | divide | remainder | power
deriving Repr, DecidableEq

structure Infix where
  operator : Operator
  spelling : String
  position : Position
  level : Nat
  rightward : Bool

structure Infix.Row where
  spelling : String
  operator : Operator
  level : Nat
  rightward : Bool := false

/-- Whether `a`, which stands before `b`, takes the operand between them. -/
def Infix.holds (a b : Infix) : Bool :=
  b.level < a.level || (a.level == b.level && !a.rightward)

section Chain

variable {α : Type} (combine : Infix → α → α → α)

def settle (next : Infix) : List (α × Infix) → α → List (α × Infix) × α
  | [], right => ([], right)
  | (left, i) :: stack, right =>
    if i.holds next then settle next stack (combine i left right) else ((left, i) :: stack, right)

def collapse (stack : List (α × Infix)) (right : α) : α :=
  stack.foldl (fun r (p : α × Infix) => combine p.2 p.1 r) right

def foldChain : List (α × Infix) → α → List (Infix × α) → α
  | stack, right, [] => collapse combine stack right
  | stack, right, (i, next) :: rest =>
    let (stack', left) := settle combine i stack right
    foldChain ((left, i) :: stack') next rest

def treeOf (first : α) (rest : List (Infix × α)) : α := foldChain combine [] first rest

end Chain

def Token.operator? (table : List Infix.Row) (t : Token) : Option Infix :=
  let spelling? :=
    match t.lexeme with
    | .sign s | .word s => some s
    | _ => none
  spelling?.bind fun s =>
    (table.find? fun row => row.spelling == s).map fun row =>
      ⟨row.operator, s, t.position, row.level, row.rightward⟩

end SheetTemplate.Source
