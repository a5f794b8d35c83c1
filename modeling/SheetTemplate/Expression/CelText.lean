import SheetTemplate.Source.Literal
import SheetTemplate.Expression.Grammar
import SheetTemplate.Text.Blank

namespace SheetTemplate.Cel

open Source Number

def signs : List String :=
  ["==", "!=", "<=", ">=", "&&", "||", "!!", "--", "+", "-", "*", "/", "%", "<", ">", "!", "(",
   ")", "[", "]", "\x7b", "\x7d", ",", ".", ":", "?"]

def table : List Infix.Row :=
  [⟨"||", .or, 1, false⟩, ⟨"&&", .and, 2, false⟩, ⟨"==", .equal, 3, false⟩,
   ⟨"!=", .different, 3, false⟩, ⟨"<", .less, 3, false⟩, ⟨"<=", .atMost, 3, false⟩,
   ⟨">", .greater, 3, false⟩, ⟨">=", .atLeast, 3, false⟩, ⟨"in", .within, 3, false⟩,
   ⟨"+", .add, 4, false⟩, ⟨"-", .subtract, 4, false⟩, ⟨"*", .multiply, 5, false⟩,
   ⟨"/", .divide, 5, false⟩, ⟨"%", .remainder, 5, false⟩]

def grammar : Grammar where
  operators := table
  unary := [("-", .negate), ("--", .plus), ("!", .not), ("!!", .truth)]
  words := [("true", .bool true), ("false", .bool false), ("null", .null)]
  opening := "\x7b"
  plainKeys := false
  choices := true
  unit := false

def comment? : List Char → Option (Option (List Char))
  | '/' :: '/' :: s => some (some (skipLine (fun c => c == '\n' || c == '\r') s))
  | _ => none

def takeSign (s : List Char) : Bool × Bool × List Char :=
  match s with
  | '-' :: t => (true, true, t)
  | '+' :: t => (true, false, t)
  | t => (false, false, t)

def readFloat? (s : List Char) : Option (Lexeme × List Char) :=
  let (_, minus, t) := takeSign s
  let whole := t.takeWhile Char.isDigit
  let r := t.dropWhile Char.isDigit
  let (places, r') :=
    match r with
    | '.' :: u => (u.takeWhile Char.isDigit, u.dropWhile Char.isDigit)
    | u => ([], u)
  let (exponent, r'') := takeExponent (if places.isEmpty then r else r')
  let isFloat : Bool := !places.isEmpty || (!whole.isEmpty && r''.length < r.length)
  if isFloat then
    let x := decimalFloat whole places exponent
    some (.float (if minus then negate x else x), r'')
  else none

def readInt? (s : List Char) : Option (Lexeme × List Char) := do
  let (signed, minus, t) := takeSign s
  if signed && !minus then none
  else
    let hex :=
      match t with
      | '0' :: x :: u => if x == 'x' || x == 'X' then u.takeWhile (isDigitOf 16) else []
      | _ => []
    let ds := t.takeWhile Char.isDigit
    if ds.isEmpty then none
    else
      let n := if hex.isEmpty then digitsValue ds else valueIn 16 hex
      let rest := if hex.isEmpty then t.drop ds.length else t.drop (2 + hex.length)
      match rest with
      | u :: rest' =>
        if u == 'u' || u == 'U' then
          if !minus && n ≤ greatestNat64 then some (.unsigned n, rest') else none
        else wholeNumber? minus n rest
      | [] => wholeNumber? minus n []
where
  wholeNumber? (minus : Bool) (n : Nat) (rest : List Char) : Option (Lexeme × List Char) :=
    let v : Int := if minus then -n else n
    if leastInt64 ≤ v ∧ v ≤ greatestInt64 then some (.int v, rest) else none

def isOctal (c : Char) : Bool := isDigitOf 8 c

def escape? (s : List Char) : Option (List Char × List Char) :=
  match s with
  | 'x' :: t | 'X' :: t => readPoint? 2 t
  | 'u' :: t => readPoint? 4 t
  | 'U' :: t => readPoint? 8 t
  | a :: b :: c :: t =>
    if isOctal a && isOctal b && isOctal c then some ([Char.ofNat (valueIn 8 [a, b, c])], t)
    else named s
  | s => named s
where
  named (s : List Char) : Option (List Char × List Char) :=
    namedEscape?
      [('a', '\x07'), ('b', '\x08'), ('f', '\x0c'), ('n', '\n'), ('r', '\r'), ('t', '\t'),
       ('v', '\x0b'), ('\\', '\\'), ('?', '?'), ('"', '"'), ('\'', '\''), ('\x60', '\x60')] s

/-- A backslash in a raw text stands for itself and shields the character after it. -/
def rawEscape? : List Char → Option (List Char × List Char)
  | c :: t => some (['\\', c], t)
  | [] => none

def readText? (raw : Bool) (s : List Char) : Option (List Char × List Char) :=
  let escape := if raw then rawEscape? else escape?
  match s with
  | a :: b :: c :: t =>
    if (a == '"' || a == '\'') && b == a && c == a then
      readQuoted? (closedBy [a, a, a]) escape (fun _ => true) (t.length + 1) t
    else single escape s
  | s => single escape s
where
  single (escape : List Char → Option (List Char × List Char)) :
      List Char → Option (List Char × List Char)
    | q :: t =>
      if q == '"' || q == '\'' then
        readQuoted? (closedBy [q]) escape (· != '\n') (t.length + 1) t
      else none
    | [] => none

def isPrefixLetter (c : Char) : Bool := ['r', 'R', 'b', 'B'].contains c

def readString? (s : List Char) : Option (Lexeme × List Char) := do
  let letters := (s.takeWhile isPrefixLetter).map Char.toLower
  if 2 < letters.length then none
  else
    let (x, rest) ← readText? (letters.contains 'r') (s.dropWhile isPrefixLetter)
    let text := String.ofList x
    some (if letters.contains 'b' then .bytes text.toUTF8.toList else .text text, rest)

def isLetter (c : Char) : Bool := c.isAlpha || c == '_'

def first? (s : List Char) : Option (Lexeme × List Char) :=
  match readString? s with
  | some found => some found
  | none =>
    match (readFloat? s).or (readInt? s) with
    | some found => some found
    | none =>
      match readWord? isLetter (fun c => c.isAlphanum || c == '_') s with
      | some (w, r) => some (.word (String.ofList w), r)
      | none => readSign? signs s

def scanner : Scanner Unit where
  skip? s := skipTrivia? Text.isBlank comment? (s.length + 1) s
  first? _ s := (first? s).map fun (x, r) => (x, r, ())

def expression? (code : String) : Option Expression :=
  scanner.tokens? () code.toList >>= grammar.expression?

end SheetTemplate.Cel
