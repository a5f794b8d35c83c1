import SheetTemplate.Data.Json
import SheetTemplate.Number.Decimal
import SheetTemplate.Shape
import SheetTemplate.Text.Quoted

namespace SheetTemplate.Rhai

open Number

inductive Value where
  | unit
  | bool (b : Bool)
  | int (n : Int)
  /-- A whole number beyond the signed range: it can be shown, not reckoned with. -/
  | unsigned (n : Nat)
  | float (x : Float)
  | char (c : Char)
  | text (s : String)
  | array (items : List Value)
  | map (fields : List (String × Value))
  /-- The numbers from `first` on and below `stop`. -/
  | range (first stop : Int)
  /-- The numbers from `first` to `last`. -/
  | closedRange (first last : Int)
  /-- A blob, a function pointer, a time stamp or a value of the host: its type, its text by itself
  and its text inside others. -/
  | foreign (type alone inside : String)

mutual

def Value.ofJson : Json → Value
  | .null => .unit
  | .bool b => .bool b
  | .int n => if n ≤ greatestInt64 then .int n else .unsigned n.toNat
  | .float x => .float x
  | .str s => .text s
  | .arr items => .array (ofItems items)
  | .obj fields => .map (ofFields fields)

def Value.ofItems : List Json → List Value
  | [] => []
  | x :: xs => .ofJson x :: ofItems xs

def Value.ofFields : List (String × Json) → List (String × Value)
  | [] => []
  | (k, x) :: xs => (k, .ofJson x) :: ofFields xs

end

def Value.typeName : Value → String
  | unit => "()"
  | bool _ => "bool"
  | int _ => "i64"
  | unsigned _ => "u64"
  | float _ => "f64"
  | char _ => "char"
  | text _ => "&str | ImmutableString | String"
  | array _ => "array"
  | map _ => "map"
  | range .. => "range"
  | closedRange .. => "range="
  | foreign t _ _ => t

def greatMagnitude : Float := ofDecimal false 9999999827968 0

def smallMagnitude : Float := nearest false 1 (pow10 13)

def exponentText (x : Float) : String :=
  let d := shortest .up (code x)
  let ds := natDigits d.digits
  let rest := ds.drop 1
  let mantissa := ds.take 1 ++ (if rest.isEmpty then [] else '.' :: rest)
  signed x (mantissa ++ 'e' :: (intText (ds.length + d.exponent - 1)).toList)

/-- The text of a double by itself: a whole one shows a zero after the point, and only very great
and very small ones have an exponent. -/
def floatText (x : Float) : String :=
  match specialText x with
  | some s => s
  | none =>
    if code x = 0 then "0.0"
    else if code greatMagnitude < code x || code x < code smallMagnitude then exponentText x
    else
      let d := shortest .up (code x)
      signed x (if 0 ≤ d.exponent then d.plain ++ ".0".toList else d.plain)

def rangeText (first last : Int) (dots : String) : String :=
  intText first ++ dots ++ (if last = greatestInt64 then "" else intText last)

def quotedChar (c : Char) : String :=
  let inside := if c == '\'' then ['\\', '\''] else if c == '"' then ['"'] else Text.quoteChar c
  String.ofList ('\'' :: inside ++ ['\''])

mutual

def Value.inside : Value → String
  | unit => "()"
  | bool b => if b then "true" else "false"
  | int n => intText n
  | unsigned n => natText n
  | float x => markedText x
  | char c => quotedChar c
  | text s => Text.quoted s
  | array items => "[" ++ insideItems items ++ "]"
  | map fields => "#\x7b" ++ insideFields fields ++ "\x7d"
  | range a b => rangeText a b ".."
  | closedRange a b => rangeText a b "..="
  | foreign _ _ t => t

def Value.insideItems : List Value → String
  | [] => ""
  | [x] => x.inside
  | x :: xs => x.inside ++ ", " ++ insideItems xs

def Value.insideFields : List (String × Value) → String
  | [] => ""
  | [(k, x)] => Text.quoted k ++ ": " ++ x.inside
  | (k, x) :: xs => Text.quoted k ++ ": " ++ x.inside ++ ", " ++ insideFields xs

end

def Value.display : Value → String
  | unit => ""
  | float x => floatText x
  | char c => String.singleton c
  | text s => s
  | foreign _ t _ => t
  | v => v.inside

def Value.quantity? : Value → Option Quantity
  | int n => some (.int n)
  | float x => some (.float x)
  | _ => none

def Value.length? : Value → Option Nat
  | array items => some items.length
  | range a b => some (b - a).toNat
  | closedRange a b => some (b - a + 1).toNat
  | _ => none

def Value.item? (i : Nat) : Value → Option Value
  | array items => items[i]?
  | range a b => if i < (b - a).toNat then some (.int (a + i)) else none
  | closedRange a b => if i < (b - a + 1).toNat then some (.int (a + i)) else none
  | _ => none

instance : Queryable (Except EngineError) Value where
  text v := pure v.display
  number v := pure v.quantity?
  length v := pure v.length?
  item v i :=
    match v.item? i with
    | some x => pure x
    | none => throw (.extraction ("rhai value has no item " ++ natText i))

end SheetTemplate.Rhai
