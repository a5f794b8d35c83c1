import SheetTemplate.Number.Binary

namespace SheetTemplate.Number

def natDigits (n : Nat) : List Char := Nat.toDigits 10 n

def natText (n : Nat) : String := String.ofList (natDigits n)

def intText (n : Int) : String :=
  if n < 0 then "-" ++ natText n.natAbs else natText n.natAbs

structure Decimal where
  digits : Nat
  exponent : Int
deriving Repr, DecidableEq

inductive Tie where
  | up
  | toEven
deriving DecidableEq

def compareScaled (a : Nat) (i : Int) (n : Nat) (j : Int) : Ordering :=
  compare (a * pow10 i.toNat * pow2 (-j).toNat) (n * pow2 j.toNat * pow10 (-i).toNat)

/-- Whether the decimal lies among the numbers that round to the double with code `n`. The gap
below a power of two is half the gap above it, and the ends belong to an even mantissa. -/
def readsBack (n : Nat) (d : Decimal) : Bool :=
  let b := Binary.ofCode n
  let narrow : Bool := b.mantissa == leadingBit && b.exponent > -1074
  let low := if narrow then 4 * b.mantissa - 1 else 4 * b.mantissa - 2
  let high := 4 * b.mantissa + 2
  let ends := b.mantissa % 2 == 0
  let c := compareScaled d.digits d.exponent low (b.exponent - 2)
  let c' := compareScaled d.digits d.exponent high (b.exponent - 2)
  (c == .gt || (ends && c == .eq)) && (c' == .lt || (ends && c' == .eq))

def tenthsAbove (b : Binary) : Nat → Int → Int
  | 0, k => k
  | steps + 1, k =>
    if compareScaled 1 k b.mantissa b.exponent == .gt then k else tenthsAbove b steps (k + 1)

def decimalScale (b : Binary) : Int :=
  let bits : Int := b.mantissa.log2 + b.exponent
  tenthsAbove b 4 (bits * 30103 / 100000 - 1)

def shortestWith (tie : Tie) (n : Nat) (scale : Int) (count : Nat) : Option Decimal :=
  let b := Binary.ofCode n
  let e := scale - count
  let num := b.mantissa * pow2 b.exponent.toNat * pow10 (-e).toNat
  let den := pow2 (-b.exponent).toNat * pow10 e.toNat
  let below := num / den
  let low : Decimal := ⟨below, e⟩
  let high : Decimal := ⟨below + 1, e⟩
  match readsBack n low, readsBack n high with
  | true, false => some low
  | false, true => some high
  | false, false => none
  | true, true =>
    match compare (2 * (num % den)) den with
    | .lt => some low
    | .gt => some high
    | .eq => some (if tie = .toEven && below % 2 == 0 then low else high)

def stripZeros : Nat → Decimal → Decimal
  | 0, d => d
  | fuel + 1, d =>
    if d.digits % 10 == 0 && d.digits != 0 then stripZeros fuel ⟨d.digits / 10, d.exponent + 1⟩ else d

def Binary.exact (b : Binary) : Decimal :=
  if 0 ≤ b.exponent then ⟨b.mantissa * pow2 b.exponent.toNat, 0⟩
  else ⟨b.mantissa * Nat.pow 5 (-b.exponent).toNat, b.exponent⟩

/-- The fewest digits that read back; of those the closest. -/
def shortest (tie : Tie) (n : Nat) : Decimal :=
  if n = 0 then ⟨0, 0⟩
  else
    let b := Binary.ofCode n
    let scale := decimalScale b
    match (List.range 17).findSome? fun i => shortestWith tie n scale (i + 1) with
    | some d => stripZeros 20 d
    | none => b.exact

def pointed (digits : List Char) (places : Nat) : List Char :=
  let padded := List.replicate (places + 1 - digits.length) '0' ++ digits
  let whole := padded.take (padded.length - places)
  if places = 0 then whole else whole ++ '.' :: padded.drop (padded.length - places)

def Decimal.plain (d : Decimal) : List Char :=
  if 0 ≤ d.exponent then natDigits (d.digits * pow10 d.exponent.toNat)
  else pointed (natDigits d.digits) (-d.exponent).toNat

def specialText (x : Float) : Option String :=
  if isNan x then some "NaN"
  else if isFinite x then none
  else some (if isNegative x then "-inf" else "inf")

def signed (x : Float) (text : List Char) : String :=
  String.ofList (if isNegative x then '-' :: text else text)

def plainText (x : Float) : String :=
  (specialText x).getD (signed x (shortest .up (code x)).plain)

/-- The text of a double that shows it is one: `5.0`, and an exponent from `1e16` on and below
`1e-4`. -/
def markedText (x : Float) : String :=
  match specialText x with
  | some s => s
  | none =>
    let d := shortest .up (code x)
    let ds := natDigits d.digits
    let leading : Int := ds.length + d.exponent - 1
    if d.digits = 0 then signed x "0.0".toList
    else if -5 < leading && leading < 16 then
      signed x (if 0 ≤ d.exponent then d.plain ++ ".0".toList else d.plain)
    else
      let rest := ds.drop 1
      let mantissa := ds.take 1 ++ (if rest.isEmpty then [] else '.' :: rest)
      signed x (mantissa ++ 'e' :: (intText leading).toList)

def inPlaces (b : Binary) (places : Nat) : Nat :=
  roundDiv (b.mantissa * pow2 b.exponent.toNat * pow10 places) (pow2 (-b.exponent).toNat)

def placesText (places : Nat) (x : Float) : String :=
  (specialText x).getD (signed x (pointed (natDigits (inPlaces (magnitude x) places)) places))

/-- The double that the text with `places` decimals reads as. -/
def roundTo (places : Nat) (x : Float) : Float :=
  if isFinite x then nearest (isNegative x) (inPlaces (magnitude x) places) (pow10 places) else x

end SheetTemplate.Number
