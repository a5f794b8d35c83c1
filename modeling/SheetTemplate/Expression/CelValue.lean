import SheetTemplate.Data.Json
import SheetTemplate.Number.Decimal
import SheetTemplate.Shape
import SheetTemplate.Text.Quoted

namespace SheetTemplate.Cel

open Number

inductive Key where
  | int (n : Int)
  | unsigned (n : Nat)
  | bool (b : Bool)
  | text (s : String)
deriving Repr, DecidableEq

inductive Value where
  | null
  | bool (b : Bool)
  | int (n : Int)
  | unsigned (n : Nat)
  | float (x : Float)
  | text (s : String)
  | bytes (b : List UInt8)
  | list (items : List Value)
  | map (entries : List (Key × Value))
  /-- A function, a duration or a time stamp, with its text. -/
  | foreign (text : String)

mutual

/-- Whole numbers of the data have no sign unless they are negative. -/
def Value.ofJson : Json → Value
  | .null => .null
  | .bool b => .bool b
  | .int n => if n < 0 then .int n else .unsigned n.toNat
  | .float x => .float x
  | .str s => .text s
  | .arr items => .list (ofItems items)
  | .obj fields => .map (ofFields fields)

def Value.ofItems : List Json → List Value
  | [] => []
  | x :: xs => .ofJson x :: ofItems xs

def Value.ofFields : List (String × Json) → List (Key × Value)
  | [] => []
  | (k, x) :: xs => (.text k, .ofJson x) :: ofFields xs

end

def boolText (b : Bool) : String := if b then "true" else "false"

def tagged (tag content : String) : String := tag ++ "(" ++ content ++ ")"

def bytesText (b : List UInt8) : String :=
  "[" ++ String.intercalate ", " (b.map fun x => natText x.toNat) ++ "]"

def Key.tagged : Key → String
  | int n => Cel.tagged "Int" (intText n)
  | unsigned n => Cel.tagged "UInt" (natText n)
  | bool b => Cel.tagged "Bool" (boolText b)
  | text s => Cel.tagged "String" (Text.quoted s)

mutual

def Value.tagged : Value → String
  | null => "Null"
  | bool b => Cel.tagged "Bool" (boolText b)
  | int n => Cel.tagged "Int" (intText n)
  | unsigned n => Cel.tagged "UInt" (natText n)
  | float x => Cel.tagged "Float" (markedText x)
  | text s => Cel.tagged "String" (Text.quoted s)
  | bytes b => Cel.tagged "Bytes" (bytesText b)
  | list items => Cel.tagged "List" ("[" ++ taggedItems items ++ "]")
  | map entries => Cel.tagged "Map" ("Map \x7b map: \x7b" ++ taggedEntries entries ++ "\x7d \x7d")
  | foreign t => t

def Value.taggedItems : List Value → String
  | [] => ""
  | [x] => x.tagged
  | x :: xs => x.tagged ++ ", " ++ taggedItems xs

def Value.taggedEntries : List (Key × Value) → String
  | [] => ""
  | [(k, x)] => k.tagged ++ ": " ++ x.tagged
  | (k, x) :: xs => k.tagged ++ ": " ++ x.tagged ++ ", " ++ taggedEntries xs

end

def Value.display : Value → String
  | null => "null"
  | bool b => boolText b
  | int n => intText n
  | unsigned n => natText n
  | float x => plainText x
  | text s => s
  | v => v.tagged

/-- The number that a value is; one without a sign that has no counterpart with one is a double. -/
def Value.quantity? : Value → Option Quantity
  | int n => some (.int n)
  | unsigned n => some (if n ≤ greatestInt64 then .int n else .float (ofInt n))
  | float x => some (.float x)
  | _ => none

def Value.length? : Value → Option Nat
  | list items => some items.length
  | _ => none

def Value.item? (i : Nat) : Value → Option Value
  | list items => items[i]?
  | _ => none

instance : Queryable (Except EngineError) Value where
  text v := pure v.display
  number v := pure v.quantity?
  length v := pure v.length?
  item v i :=
    match v.item? i with
    | some x => pure x
    | none => throw (.extraction ("cel value has no item " ++ natText i))

end SheetTemplate.Cel
