import SheetTemplate.Source.Literal
import SheetTemplate.Expression.Grammar
import SheetTemplate.Text.Blank

namespace SheetTemplate.Rhai

open Source Number

def reserved : List String :=
  ["let", "const", "if", "else", "switch", "do", "while", "until", "loop", "for", "continue",
   "break", "return", "throw", "try", "catch", "fn", "private", "import", "export", "as", "this",
   "var", "static", "shared", "goto", "exit", "match", "case", "public", "protected", "new", "use",
   "with", "is", "module", "package", "super", "thread", "spawn", "go", "await", "async", "sync",
   "yield", "default", "void", "null", "nil"]

def signs : List String :=
  ["..=", "..", "**", "==", "!=", "<=", ">=", "&&", "||", "??", "#\x7b", "++", "--", "=>", "->",
   "::", "+", "-", "*", "/", "%", "<", ">", "!", "(", ")", "[", "]", "\x7b", "\x7d", ",", ".", ":",
   ";", "=", "?"]

def table : List Infix.Row :=
  [⟨"||", .or, 30, false⟩, ⟨"&&", .and, 60, false⟩, ⟨"==", .equal, 90, false⟩,
   ⟨"!=", .different, 90, false⟩, ⟨"<", .less, 110, false⟩, ⟨"<=", .atMost, 110, false⟩,
   ⟨">", .greater, 110, false⟩, ⟨">=", .atLeast, 110, false⟩, ⟨"in", .within, 110, false⟩,
   ⟨"..", .range, 130, false⟩, ⟨"..=", .closedRange, 130, false⟩, ⟨"??", .coalesce, 135, false⟩,
   ⟨"+", .add, 150, false⟩, ⟨"-", .subtract, 150, false⟩, ⟨"*", .multiply, 180, false⟩,
   ⟨"/", .divide, 180, false⟩, ⟨"%", .remainder, 180, false⟩, ⟨"**", .power, 190, true⟩]

def grammar : Grammar where
  operators := table
  unary := [("-", .negate), ("+", .plus), ("!", .not)]
  words := [("true", .bool true), ("false", .bool false)]
  opening := "#\x7b"
  plainKeys := true
  choices := false
  unit := true

def comment? : List Char → Option (Option (List Char))
  | '/' :: '/' :: s => some (some (skipLine (fun c => c == '\n' || c == '\r') s))
  | '/' :: '*' :: s => some (skipBlock? true 0 s)
  | _ => none

def escape? (quote : Char) (s : List Char) : Option (List Char × List Char) :=
  match s with
  | 'x' :: t => readPoint? 2 t
  | 'u' :: t => readPoint? 4 t
  | 'U' :: t => readPoint? 8 t
  | s => namedEscape? [('t', '\t'), ('n', '\n'), ('r', '\r'), ('\\', '\\'), (quote, quote)] s

def readText? (quote : Char) : Nat → List Char → Option (List Char × List Char)
  | 0, _ => none
  | fuel + 1, s => do
    let (x, rest) ← readQuoted? (closedBy [quote]) (escape? quote) (· != '\n') (s.length + 1) s
    match rest with
    | c :: t =>
      if c == quote then do
        let (more, rest) ← readText? quote fuel t
        some (x ++ quote :: more, rest)
      else some (x, rest)
    | [] => some (x, [])

def isLetter (c : Char) : Bool := c.isAlpha || c == '_'

/-- A point belongs to the number unless a range or a field begins with it. -/
def isPlacesStart (s : List Char) : Bool :=
  match s with
  | '.' :: c :: _ => !isLetter c && c != '.'
  | '.' :: [] => true
  | _ => false

def wholeNumber (n : Nat) : Lexeme := if n < 0x8000000000000000 then .int n else .float (ofInt n)

def readNumber? (s : List Char) : Option (Lexeme × List Char) :=
  match readBased? s with
  | some (n, rest) => if n < 0x10000000000000000 then some (.int (Int.bmod n 0x10000000000000000), rest) else none
  | none =>
    let (whole, rest) := takeDigits Char.isDigit s
    let (places, rest') := if isPlacesStart rest then takeDigits Char.isDigit (rest.drop 1) else ([], rest)
    let (exponent, rest'') := takeExponent rest'
    if rest''.length == rest.length then some (wholeNumber (digitsValue whole), rest)
    else some (.float (decimalFloat whole places exponent), rest'')

def first? (s : List Char) : Option (Lexeme × List Char) :=
  match s with
  | '"' :: t => (readText? '"' (t.length + 1) t).map fun (x, r) => (.text (String.ofList x), r)
  | '\'' :: t =>
    match readText? '\'' (t.length + 1) t with
    | some ([c], r) => some (.char c, r)
    | _ => none
  | s =>
    if (s.take 1).all Char.isDigit then readNumber? s
    else
      match readWord? isLetter (fun c => c.isAlphanum || c == '_') s with
      | some (w, r) =>
        let named : Bool := match w.dropWhile (· == '_') with
          | c :: _ => c.isAlpha
          | [] => false
        if named && !reserved.contains (String.ofList w) then some (.word (String.ofList w), r)
        else none
      | none => readSign? signs s

def scanner : Scanner Unit where
  skip? s := skipTrivia? Text.isBlank comment? (s.length + 1) s
  first? _ s := (first? s).map fun (x, r) => (x, r, ())

def expression? (code : String) : Option Expression :=
  scanner.tokens? () code.toList >>= grammar.expression?

end SheetTemplate.Rhai
