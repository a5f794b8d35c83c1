import SheetTemplate.Number.Reading

namespace SheetTemplate.Source

open Number

def isSeparated (isDigit : Char → Bool) (c : Char) : Bool := isDigit c || c == '_'

def takeDigits (isDigit : Char → Bool) (s : List Char) : List Char × List Char :=
  ((s.takeWhile (isSeparated isDigit)).filter isDigit, s.dropWhile (isSeparated isDigit))

def takeExponent (s : List Char) : Int × List Char :=
  match s with
  | m :: t =>
    let (minus, t') :=
      match t with
      | '-' :: u => (true, u)
      | '+' :: u => (false, u)
      | u => (false, u)
    let ds := t'.takeWhile Char.isDigit
    if (m == 'e' || m == 'E') && !ds.isEmpty then
      let n : Int := digitsValue ds
      (if minus then -n else n, t'.dropWhile Char.isDigit)
    else (0, s)
  | [] => (0, [])

def decimalFloat (whole places : List Char) (exponent : Int) : Float :=
  ofDecimal false (digitsValue (whole ++ places)) (exponent - places.length)

def baseOf? : Char → Option Nat
  | 'x' | 'X' => some 16
  | 'o' | 'O' => some 8
  | 'b' | 'B' => some 2
  | _ => none

def isDigitOf (base : Nat) (c : Char) : Bool :=
  match hexValue? c with
  | some v => v < base
  | none => false

def valueIn (base : Nat) (ds : List Char) : Nat :=
  ds.foldl (fun n c => base * n + (hexValue? c).getD 0) 0

def readBased? : List Char → Option (Nat × List Char)
  | '0' :: b :: s => do
    let base ← baseOf? b
    let (ds, rest) := takeDigits (isDigitOf base) s
    if ds.isEmpty then none else some (valueIn base ds, rest)
  | _ => none

def readPoint? (count : Nat) (s : List Char) : Option (List Char × List Char) := do
  let ds := s.take count
  if ds.length < count then none
  else
    let n ← readHex? ds
    if h : n.isValidChar then some ([Char.ofNatAux n h], s.drop count) else none

/-- The text up to the closing quote. `escape?` reads what follows a backslash, `allowed` tells
which characters may stand unescaped. -/
def readQuoted? (close : List Char → Option (List Char))
    (escape? : List Char → Option (List Char × List Char)) (allowed : Char → Bool) :
    Nat → List Char → Option (List Char × List Char)
  | 0, _ => none
  | fuel + 1, s =>
    match close s with
    | some rest => some ([], rest)
    | none =>
      match s with
      | [] => none
      | '\\' :: t => do
        let (x, rest) ← escape? t
        let (more, rest) ← readQuoted? close escape? allowed fuel rest
        some (x ++ more, rest)
      | c :: t =>
        if allowed c then do
          let (more, rest) ← readQuoted? close escape? allowed fuel t
          some (c :: more, rest)
        else none

def closedBy (mark : List Char) (s : List Char) : Option (List Char) :=
  if mark.isPrefixOf s then some (s.drop mark.length) else none

def namedEscape? (table : List (Char × Char)) (s : List Char) : Option (List Char × List Char) :=
  match s with
  | c :: t => (table.lookup c).map fun x => ([x], t)
  | [] => none

end SheetTemplate.Source
