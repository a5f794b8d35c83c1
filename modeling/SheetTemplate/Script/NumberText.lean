import SheetTemplate.Number.Decimal
import SheetTemplate.Script.Lexeme

namespace SheetTemplate.Script

open Source Number

def exponentChars (e : Int) : List Char :=
  'e' :: (if e < 0 then '-' else '+') :: natDigits e.natAbs

/-- The fewest digits that read back; positional from `1e-6` on and below `1e21`. -/
def numberText (x : Float) : String :=
  if isNan x then "NaN"
  else if code x = 0 then "0"
  else if !isFinite x then (if isNegative x then "-Infinity" else "Infinity")
  else
    let d := shortest .toEven (code x)
    let ds := natDigits d.digits
    let leading : Int := ds.length + d.exponent - 1
    if -7 < leading && leading < 21 then signed x d.plain
    else
      let rest := ds.drop 1
      let mantissa := ds.take 1 ++ (if rest.isEmpty then [] else '.' :: rest)
      signed x (mantissa ++ exponentChars leading)

def textNumber (s : String) : Float :=
  let core := ((s.toList.dropWhile isGap).reverse.dropWhile isGap).reverse
  match core with
  | [] => ofInt 0
  | '-' :: t => negate ((unsigned? t).getD nan)
  | '+' :: t => (unsigned? t).getD nan
  | t =>
    match based? t with
    | some n => ofInt n
    | none => (unsigned? t).getD nan
where
  isGap (c : Char) : Bool := isSpace c || isLineEnd c
  based? (t : List Char) : Option Nat :=
    if t.contains '_' then none
    else
      match readBased? t with
      | some (n, []) => some n
      | _ => none
  unsigned? (t : List Char) : Option Float :=
    if t == "Infinity".toList then some (infinity false)
    else if t.contains '_' then none
    else
      match readDecimal? t with
      | some (x, []) => some x
      | _ => none

end SheetTemplate.Script
