import SheetTemplate.Number.Binary

namespace SheetTemplate.Number

def digitValue (c : Char) : Nat := c.toNat - '0'.toNat

def digitsValue (s : List Char) : Nat := s.foldl (fun n c => 10 * n + digitValue c) 0

def readNat? (limit : Nat) (s : List Char) : Option Nat :=
  if s.isEmpty || !s.all Char.isDigit then none
  else
    let n := digitsValue s
    if n ≤ limit then some n else none

def readUnsigned? (limit : Nat) : List Char → Option Nat
  | '+' :: s => readNat? limit s
  | s => readNat? limit s

def greatestNat64 : Nat := 0xFFFFFFFFFFFFFFFF

def hexValue? (c : Char) : Option Nat :=
  if c.isDigit then some (c.toNat - '0'.toNat)
  else if 'a' ≤ c && c ≤ 'f' then some (c.toNat - 'a'.toNat + 10)
  else if 'A' ≤ c && c ≤ 'F' then some (c.toNat - 'A'.toNat + 10)
  else none

def readHex? (s : List Char) : Option Nat :=
  if s.isEmpty then none
  else s.foldl (fun n? c => do pure (16 * (← n?) + (← hexValue? c))) (some 0)

def readExponent? : List Char → Option Int
  | [] => some 0
  | m :: s =>
    if m != 'e' && m != 'E' then none
    else
      let (negative, digits) :=
        match s with
        | '-' :: t => (true, t)
        | '+' :: t => (false, t)
        | t => (false, t)
      if digits.isEmpty || !digits.all Char.isDigit then none
      else
        let n := digitsValue digits
        some (if negative then -(n : Int) else n)

def readMagnitude? (negative : Bool) (s : List Char) : Option Float :=
  let whole := s.takeWhile Char.isDigit
  let rest := s.dropWhile Char.isDigit
  let (fraction, tail) :=
    match rest with
    | '.' :: t => (t.takeWhile Char.isDigit, t.dropWhile Char.isDigit)
    | t => ([], t)
  if whole.isEmpty && fraction.isEmpty then none
  else do
    let e ← readExponent? tail
    pure (ofDecimal negative (digitsValue (whole ++ fraction)) (e - fraction.length))

def readSigned? (negative : Bool) (s : List Char) : Option Float :=
  match s.map Char.toLower with
  | ['i', 'n', 'f'] | ['i', 'n', 'f', 'i', 'n', 'i', 't', 'y'] => some (infinity negative)
  | ['n', 'a', 'n'] => some nan
  | _ => readMagnitude? negative s

/-- A double in decimal notation, `inf`, `infinity` or `nan` in any case, with an optional sign. -/
def readFloat? : List Char → Option Float
  | '-' :: s => readSigned? true s
  | '+' :: s => readSigned? false s
  | s => readSigned? false s

end SheetTemplate.Number
