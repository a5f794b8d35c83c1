import SheetTemplate.Data.JsonText
import SheetTemplate.Source.Literal
import SheetTemplate.Source.Token
import SheetTemplate.Text.Blank
import SheetTemplate.Text.Identifier

namespace SheetTemplate.Script

open Source Number

def isLineEnd (c : Char) : Bool := ['\n', '\r', '\u2028', '\u2029'].contains c

def isSpace (c : Char) : Bool := c.toNat == 0xFEFF || (Text.isBlank c && c.toNat != 0x85)

def comment? : List Char → Option (Option (List Char))
  | '/' :: '/' :: s => some (some (skipLine isLineEnd s))
  | '/' :: '*' :: s => some (skipBlock? false 0 s)
  | _ => none

def skip? (s : List Char) : Option (List Char) := skipTrivia? isSpace comment? (s.length + 1) s

def isNameStart (c : Char) : Bool := c == '$' || c == '_' || Text.isIdStart c

def isNamePart (c : Char) : Bool :=
  c == '$' || c == '\u200c' || c == '\u200d' || Text.isIdContinue c

def ofPoint? (n : Nat) : Option Char := if n.isValidChar then some (Char.ofNat n) else none

def readBraced? (s : List Char) : Option (Char × List Char) := do
  let n ← readHex? (s.takeWhile (isDigitOf 16))
  match s.dropWhile (isDigitOf 16) with
  | '\x7d' :: rest => (ofPoint? n).map (·, rest)
  | _ => none

def nameEscape? : List Char → Option (Char × List Char)
  | 'u' :: '\x7b' :: s => readBraced? s
  | 'u' :: s => do
    let (n, rest) ← JsonText.readHex4? s
    (ofPoint? n).map (·, rest)
  | _ => none

def nameChar? : List Char → Option (Char × List Char)
  | [] => none
  | c :: s => if c = '\\' then nameEscape? s else some (c, s)

def readNameParts : Nat → List Char → List Char × List Char
  | 0, s => ([], s)
  | fuel + 1, s =>
    match nameChar? s with
    | none => ([], s)
    | some (c, rest) =>
      if isNamePart c then
        let (more, rest) := readNameParts fuel rest
        (c :: more, rest)
      else ([], s)

def readName? (s : List Char) : Option (List Char × List Char) := do
  let (c, rest) ← nameChar? s
  if isNameStart c then
    let (more, rest) := readNameParts rest.length rest
    some (c :: more, rest)
  else none

/-- The word or name at the front; with an escape in it, it is no keyword. -/
def readWordOrName? (s : List Char) : Option (Lexeme × List Char) := do
  let (w, rest) ← readName? s
  let name := String.ofList w
  some (if (before s rest).contains '\\' then .name name else .word name, rest)

/-- The words that are no names. All code is strict, where there are more of them. -/
def reserved : List String :=
  ["break", "case", "catch", "class", "const", "continue", "debugger", "default", "delete", "do",
   "else", "enum", "export", "extends", "false", "finally", "for", "function", "if", "implements",
   "import", "in", "instanceof", "interface", "let", "new", "null", "package", "private",
   "protected", "public", "return", "static", "super", "switch", "this", "throw", "true", "try",
   "typeof", "var", "void", "while", "with", "yield"]

def isDeclarable (name : String) : Bool :=
  !reserved.contains name && name != "eval" && name != "arguments"

def readDecimal? (s : List Char) : Option (Float × List Char) :=
  let (whole, r) := takeDigits Char.isDigit s
  let (places, r') :=
    match r with
    | '.' :: t => takeDigits Char.isDigit t
    | t => ([], t)
  let (exponent, rest) := takeExponent r'
  if whole.isEmpty && places.isEmpty then none
  else some (decimalFloat whole places exponent, rest)

/-- A number that no name touches and that does not begin with two digits of which one is 0. -/
def readNumber? (s : List Char) : Option (Lexeme × List Char) := do
  let (x, rest) ← (readBased? s).map (fun (n, r) => (ofInt n, r)) <|> readDecimal? s
  let octal : Bool :=
    match s with
    | '0' :: c :: _ => c.isDigit || c == '_'
    | _ => false
  if octal || (rest.take 1).any (fun c => isNameStart c || c.isDigit) then none
  else some (.float x, rest)

/-- What follows a backslash. A line break after it is left out, and a character without a meaning
of its own stands for itself. -/
def escape? (s : List Char) : Option (List Char × List Char) :=
  match s with
  | 'x' :: t => readPoint? 2 t
  | 'u' :: '\x7b' :: t => (readBraced? t).map fun (c, r) => ([c], r)
  | 'u' :: t => (JsonText.readUnit? t).map fun (c, r) => ([c], r)
  | '\r' :: '\n' :: t => some ([], t)
  | '0' :: t => if (t.take 1).any Char.isDigit then none else some (['\x00'], t)
  | c :: t =>
    if c.isDigit then none
    else if isLineEnd c then some ([], t)
    else
      namedEscape? [('n', '\n'), ('t', '\t'), ('r', '\r'), ('b', '\x08'), ('f', '\x0c'),
        ('v', '\x0b'), (c, c)] s
  | [] => none

def readText? (quote : Char) (s : List Char) : Option (Lexeme × List Char) :=
  (readQuoted? (closedBy [quote]) escape? (fun c => c != '\n' && c != '\r') (s.length + 1) s).map
    fun (x, rest) => (.text (String.ofList x), rest)

def pieceEnd (s : List Char) : Option (List Char) :=
  match s with
  | '\x60' :: _ => some s
  | '$' :: '\x7b' :: _ => some s
  | _ => none

def unixLines : List Char → List Char
  | '\r' :: '\n' :: s => '\n' :: unixLines s
  | '\r' :: s => '\n' :: unixLines s
  | c :: s => c :: unixLines s
  | [] => []

def readPiece? (s : List Char) : Option (Lexeme × List Char × Bool) := do
  let (x, rest) ← readQuoted? pieceEnd escape? (fun _ => true) (s.length + 1) s
  let text := String.ofList (unixLines x)
  match rest with
  | '\x60' :: r => some (.piece text true, r, true)
  | _ :: _ :: r => some (.piece text false, r, false)
  | _ => none

def signs : List String :=
  ["===", "!==", "**=", "...", "=>", "==", "!=", "<=", ">=", "&&", "||", "??", "**", "+=",
   "-=", "*=", "/=", "%=", "++", "--", "+", "-", "*", "/", "%", "<", ">", "!", "(", ")", "[", "]",
   ",", ".", ":", ";", "=", "?"]

/-- The token at the front; `braces` says of each open brace whether a template goes on after it. -/
def first? (braces : List Bool) (s : List Char) : Option (Lexeme × List Char × List Bool) :=
  let piece (braces : List Bool) (t : List Char) := do
    let (x, r, last) ← readPiece? t
    some (x, r, if last then braces else true :: braces)
  match s with
  | '\x60' :: t => piece braces t
  | '\x7b' :: t => some (.sign "\x7b", t, false :: braces)
  | '\x7d' :: t =>
    match braces with
    | true :: outer => piece outer t
    | _ :: outer => some (.sign "\x7d", t, outer)
    | [] => some (.sign "\x7d", t, [])
  | '"' :: t => (readText? '"' t).map fun (x, r) => (x, r, braces)
  | '\'' :: t => (readText? '\'' t).map fun (x, r) => (x, r, braces)
  | s =>
    let found? : Option (Lexeme × List Char) :=
      readNumber? s
        <|> readWordOrName? s
        <|> (if startsNumber s then none else readSign? signs s)
    found?.map fun (x, r) => (x, r, braces)
where
  /-- Whether a number begins here, so that what is no number is no token at all. -/
  startsNumber : List Char → Bool
    | '.' :: c :: _ => c.isDigit
    | c :: _ => c.isDigit
    | [] => false

def scanner : Scanner (List Bool) := ⟨skip?, first?⟩

def tokens? (code : List Char) : Option (List Token) := scanner.tokens? [] code

def brokenAfter (a b : Token) : Bool := (before a.rest b.front).any isLineEnd

end SheetTemplate.Script
