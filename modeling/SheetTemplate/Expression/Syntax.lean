import SheetTemplate.Source.Operator

namespace SheetTemplate

open Source

inductive Constant where
  | null
  | bool (b : Bool)
  | int (n : Int)
  | unsigned (n : Nat)
  | float (x : Float)
  | char (c : Char)
  | text (s : String)
  | bytes (b : List UInt8)

inductive Unary where
  | negate
  | plus
  | not
  | truth
deriving Repr, DecidableEq

inductive Expression where
  | constant (p : Position) (value : Constant)
  | name (p : Position) (name : String)
  | unary (p : Position) (op : Unary) (e : Expression)
  | binary (i : Infix) (left right : Expression)
  | choice (condition yes no : Expression)
  | item (e index : Expression)
  | field (p : Position) (e : Expression) (name : String)
  | call (p : Position) (function : String) (args : List Expression)
  | method (p : Position) (e : Expression) (function : String) (args : List Expression)
  | list (p : Position) (items : List Expression)
  | record (p : Position) (keys values : List Expression)

def Expression.start : Expression → Position
  | constant p _ | name p _ | unary p _ _ | call p _ _ | list p _ | record p _ _ => p
  | binary _ e _ | choice e _ _ | item e _ | field _ e _ | method _ e _ _ => e.start

end SheetTemplate
