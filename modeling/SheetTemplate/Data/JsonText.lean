import SheetTemplate.Data.Json
import SheetTemplate.Number.Decimal
import SheetTemplate.Number.Reading

namespace SheetTemplate.JsonText

open Number

def maxDepth : Nat := 127

def isBlank (c : Char) : Bool := c == ' ' || c == '\n' || c == '\t' || c == '\r'

def skip (s : List Char) : List Char := s.dropWhile isBlank

def maxPower : Nat := 308

def powerOfTen (n : Nat) : Float := ofDecimal false 1 n

def divideDown : Nat → Float → Nat → Float
  | 0, x, _ => x
  | fuel + 1, x, n =>
    if n ≤ maxPower then x / powerOfTen n
    else if x == 0 then x
    else divideDown fuel (x / powerOfTen maxPower) (n - maxPower)

/-- `digits * 10 ^ exponent`, by one rounded multiplication or a few rounded divisions. -/
def ofParts? (negative : Bool) (digits : Nat) (exponent : Int) : Option Float :=
  let x := ofInt digits
  let y? :=
    if exponent < 0 then some (divideDown 4 x exponent.natAbs)
    else if exponent.toNat ≤ maxPower then
      let y := x * powerOfTen exponent.toNat
      if isFinite y then some y else none
    else if digits = 0 then some x
    else none
  y?.map fun y => if negative then negate y else y

def readSignificand (n : Nat) : List Char → Nat × List Char
  | [] => (n, [])
  | c :: s =>
    if c.isDigit && 10 * n + digitValue c ≤ greatestNat64 then
      readSignificand (10 * n + digitValue c) s
    else (n, c :: s)

def readScale? (negative : Bool) (digits : Nat) (exponent : Int) (s : List Char) :
    Option (Float × List Char) :=
  let (minus, rest) :=
    match s with
    | '-' :: t => (true, t)
    | '+' :: t => (false, t)
    | t => (false, t)
  let ds := rest.takeWhile Char.isDigit
  let tail := rest.dropWhile Char.isDigit
  if ds.isEmpty then none
  else
    let e := digitsValue ds
    if 0x80000000 ≤ e then
      if digits ≠ 0 && !minus then none else some (ofCode negative 0, tail)
    else (ofParts? negative digits (if minus then exponent - e else exponent + e)).map (·, tail)

def readTail? (negative : Bool) (digits : Nat) (exponent : Int) :
    List Char → Option (Float × List Char)
  | 'e' :: s => readScale? negative digits exponent s
  | 'E' :: s => readScale? negative digits exponent s
  | s => (ofParts? negative digits exponent).map (·, s)

def readFraction? (negative : Bool) (digits : Nat) (exponent : Int) (s : List Char) :
    Option (Float × List Char) :=
  match s with
  | c :: _ =>
    if c.isDigit then
      let (digits', rest) := readSignificand digits s
      readTail? negative digits' (exponent - (s.length - rest.length : Nat))
        (rest.dropWhile Char.isDigit)
    else none
  | [] => none

def ofWhole (negative : Bool) (digits : Nat) : Json :=
  if !negative then .int digits
  else if digits = 0 || signBit < digits then .float (negate (ofInt digits))
  else .int (-digits)

def readUnsigned? (negative : Bool) (s : List Char) : Option (Json × List Char) :=
  match s with
  | [] => none
  | c :: s' =>
    if !c.isDigit then none
    else
      let (digits, rest) := if c = '0' then (0, s') else readSignificand 0 s
      let dropped := if c = '0' then [] else rest.takeWhile Char.isDigit
      let more := if c = '0' then rest else rest.dropWhile Char.isDigit
      let exponent : Int := dropped.length
      match more with
      | '.' :: t => (readFraction? negative digits exponent t).map fun (x, r) => (.float x, r)
      | c' :: _ =>
        if c' == 'e' || c' == 'E' then
          (readTail? negative digits exponent more).map fun (x, r) => (.float x, r)
        else if c'.isDigit then none
        else if dropped.isEmpty then some (ofWhole negative digits, more)
        else (ofParts? negative digits exponent).map fun x => (.float x, more)
      | [] =>
        if dropped.isEmpty then some (ofWhole negative digits, more)
        else (ofParts? negative digits exponent).map fun x => (.float x, more)

def readHex4? : List Char → Option (Nat × List Char)
  | a :: b :: c :: d :: s => (readHex? [a, b, c, d]).map (·, s)
  | _ => none

def escaped? : Char → Option Char
  | '"' => some '"'
  | '\\' => some '\\'
  | '/' => some '/'
  | 'b' => some '\x08'
  | 'f' => some '\x0c'
  | 'n' => some '\n'
  | 'r' => some '\r'
  | 't' => some '\t'
  | _ => none

/-- The character of one `\u` escape or of a surrogate pair of two, after the first `\u`. -/
def readUnit? (s : List Char) : Option (Char × List Char) := do
  let (n, rest) ← readHex4? s
  if 0xDC00 ≤ n ∧ n < 0xE000 then none
  else if 0xD800 ≤ n ∧ n < 0xDC00 then
    match rest with
    | '\\' :: 'u' :: rest' => do
      let (m, rest'') ← readHex4? rest'
      if 0xDC00 ≤ m ∧ m < 0xE000 then
        some (Char.ofNat (0x10000 + (n - 0xD800) * 0x400 + (m - 0xDC00)), rest'')
      else none
    | _ => none
  else some (Char.ofNat n, rest)

def readString? : Nat → List Char → Option (List Char × List Char)
  | 0, _ => none
  | _ + 1, [] => none
  | fuel + 1, c :: s =>
    if c = '"' then some ([], s)
    else if c.toNat < 0x20 then none
    else if c = '\\' then
      match s with
      | 'u' :: t => do
        let (u, rest) ← readUnit? t
        let (text, rest) ← readString? fuel rest
        pure (u :: text, rest)
      | e :: t => do
        let u ← escaped? e
        let (text, rest) ← readString? fuel t
        pure (u :: text, rest)
      | [] => none
    else do
      let (text, rest) ← readString? fuel s
      pure (c :: text, rest)

mutual

def readValue? (fuel depth : Nat) (s : List Char) : Option (Json × List Char) :=
  match fuel with
  | 0 => none
  | fuel + 1 =>
    match skip s with
    | 'n' :: 'u' :: 'l' :: 'l' :: t => some (.null, t)
    | 't' :: 'r' :: 'u' :: 'e' :: t => some (.bool true, t)
    | 'f' :: 'a' :: 'l' :: 's' :: 'e' :: t => some (.bool false, t)
    | '"' :: t => (readString? (t.length + 1) t).map fun (x, r) => (.str (String.ofList x), r)
    | '-' :: t => readUnsigned? true t
    | '[' :: t =>
      match depth with
      | 0 => none
      | depth + 1 =>
        match skip t with
        | ']' :: r => some (.arr [], r)
        | r => (readItems? fuel depth r).map fun (xs, r) => (.arr xs, r)
    | '\x7b' :: t =>
      match depth with
      | 0 => none
      | depth + 1 =>
        match skip t with
        | '\x7d' :: r => some (.obj [], r)
        | r => (readFields? fuel depth r).map fun (xs, r) => (.obj (DataMap.ofPairs xs), r)
    | t => readUnsigned? false t

def readItems? (fuel depth : Nat) (s : List Char) : Option (List Json × List Char) :=
  match fuel with
  | 0 => none
  | fuel + 1 => do
    let (x, r) ← readValue? fuel depth s
    match skip r with
    | ',' :: r => do
      let (xs, r) ← readItems? fuel depth r
      pure (x :: xs, r)
    | ']' :: r => some ([x], r)
    | _ => none

def readFields? (fuel depth : Nat) (s : List Char) :
    Option (List (String × Json) × List Char) :=
  match fuel with
  | 0 => none
  | fuel + 1 =>
    match skip s with
    | '"' :: t => do
      let (key, r) ← readString? (t.length + 1) t
      match skip r with
      | ':' :: r => do
        let (x, r) ← readValue? fuel depth r
        match skip r with
        | ',' :: r => do
          let (xs, r) ← readFields? fuel depth r
          pure ((String.ofList key, x) :: xs, r)
        | '\x7d' :: r => some ([(String.ofList key, x)], r)
        | _ => none
      | _ => none
    | _ => none

end

def ofChars? (s : List Char) : Option Json :=
  match readValue? (2 * s.length + 2) maxDepth s with
  | some (v, rest) => if (skip rest).isEmpty then some v else none
  | none => none

def ofText? (s : String) : Option Json := ofChars? s.toList

def escapeChar (c : Char) : List Char :=
  match c with
  | '"' => ['\\', '"']
  | '\\' => ['\\', '\\']
  | '\x08' => ['\\', 'b']
  | '\x0c' => ['\\', 'f']
  | '\n' => ['\\', 'n']
  | '\r' => ['\\', 'r']
  | '\t' => ['\\', 't']
  | c =>
    if c.toNat < 0x20 then
      ['\\', 'u', '0', '0'] ++ (if c.toNat < 0x10 then ['0'] else []) ++ Nat.toDigits 16 c.toNat
    else [c]

def stringChars (s : String) : List Char := '"' :: s.toList.flatMap escapeChar ++ ['"']

mutual

def toChars : Json → List Char
  | .null => "null".toList
  | .bool b => (if b then "true" else "false").toList
  | .int n => (intText n).toList
  | .float x => if isFinite x then (markedText x).toList else "null".toList
  | .str s => stringChars s
  | .arr items => '[' :: itemsChars items ++ [']']
  | .obj fields => '\x7b' :: fieldsChars fields ++ ['\x7d']

def itemsChars : List Json → List Char
  | [] => []
  | [x] => toChars x
  | x :: xs => toChars x ++ ',' :: itemsChars xs

def fieldsChars : List (String × Json) → List Char
  | [] => []
  | [(k, x)] => stringChars k ++ ':' :: toChars x
  | (k, x) :: xs => stringChars k ++ ':' :: toChars x ++ ',' :: fieldsChars xs

end

def toText (v : Json) : String := String.ofList (toChars v)

end SheetTemplate.JsonText
