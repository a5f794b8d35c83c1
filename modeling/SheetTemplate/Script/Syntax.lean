import SheetTemplate.Source.Operator

namespace SheetTemplate.Script

open Source

inductive Kind where
  | var
  | lexical
  | constant
deriving Repr, DecidableEq

inductive Prefix where
  | minus
  | plus
  | not
  | typeof
  | void
deriving Repr, DecidableEq

mutual

inductive Expr where
  | null
  | bool (b : Bool)
  | number (x : Float)
  | text (s : String)
  | template (pieces : List String) (parts : List Expr)
  | name (name : String)
  | this
  | array (items : List Item)
  | object (members : List Member)
  | function (f : Function)
  | unary (op : Prefix) (e : Expr)
  | binary (op : Operator) (left right : Expr)
  | choice (condition yes no : Expr)
  | assign (target : Expr) (op : Option Operator) (value : Expr)
  | step (target : Expr) (op : Operator) (after : Bool)
  | field (e : Expr) (name : String)
  | index (e key : Expr)
  | call (f : Expr) (args : List Item)
  | construct (f : Expr) (args : List Item)
  | sequence (first second : Expr)

inductive Item where
  | hole
  | one (e : Expr)
  | spread (e : Expr)

inductive Member where
  | value (key : Expr) (e : Expr)
  | getter (key : Expr) (f : Function)
  | spread (e : Expr)

inductive Parameter where
  | mk (name : String) (default : Option Expr)

inductive Function where
  /-- The source is the text of the whole function; arrow functions have no `this` of their own. -/
  | mk (name : String) (parameters : List Parameter) (rest : Option String)
      (body : List Statement) (arrow : Bool) (source : String)

inductive Statement where
  | empty
  | declare (kind : Kind) (declarators : List Parameter)
  | function (f : Function)
  | expression (e : Expr)
  | throw (e : Expr)
  | return (e : Option Expr)
  | block (body : List Statement)
  | choice (condition : Expr) (yes : Statement) (no : Option Statement)

end

abbrev Program := List Statement

end SheetTemplate.Script
