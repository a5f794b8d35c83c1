import SheetTemplate.Number.Decimal

namespace SheetTemplate.Source

structure Position where
  line : Nat
  column : Nat
deriving Repr, DecidableEq

def Position.after (p : Position) (s : List Char) : Position :=
  s.foldl (fun q c => if c = '\n' then ⟨q.line + 1, 1⟩ else ⟨q.line, q.column + 1⟩) p

def Position.text (p : Position) : String :=
  "line " ++ Number.natText p.line ++ ", position " ++ Number.natText p.column

inductive Lexeme where
  | int (n : Int)
  | unsigned (n : Nat)
  | float (x : Float)
  | text (s : String)
  | char (c : Char)
  | bytes (b : List UInt8)
  | word (s : String)
  /-- A word that is no keyword however it reads. -/
  | name (s : String)
  | sign (s : String)
  /-- A piece of a template text; the last one ends it, after any other an expression stands. -/
  | piece (s : String) (last : Bool)

structure Token where
  lexeme : Lexeme
  position : Position
  front : List Char
  rest : List Char

/-- How a language cuts its code. What it has read may change how it goes on. -/
structure Scanner (σ : Type) where
  /-- The input without the blanks and comments at its front; none if a comment never ends. -/
  skip? : List Char → Option (List Char)
  /-- The token at the front of an input that is not empty. -/
  first? : σ → List Char → Option (Lexeme × List Char × σ)

def before (s t : List Char) : List Char := s.take (s.length - t.length)

def Scanner.scan {σ : Type} (c : Scanner σ) :
    Nat → σ → Position → List Char → Option (List Token)
  | 0, _, _, _ => none
  | fuel + 1, state, p, s => do
    let front ← c.skip? s
    if front.isEmpty then some []
    else
      let position := p.after (before s front)
      let (lexeme, rest, state') ← c.first? state front
      let tokens ← c.scan fuel state' (position.after (before front rest)) rest
      some (⟨lexeme, position, front, rest⟩ :: tokens)

def Scanner.tokens? {σ : Type} (c : Scanner σ) (initial : σ) (s : List Char) :
    Option (List Token) :=
  c.scan (s.length + 1) initial ⟨1, 1⟩ s

def readSign? (signs : List String) (s : List Char) : Option (Lexeme × List Char) :=
  let fits := signs.filter fun sign => sign.toList.isPrefixOf s
  match fits with
  | [] => none
  | f :: fs =>
    let longest := fs.foldl (fun a b => if a.length < b.length then b else a) f
    some (.sign longest, s.drop longest.length)

def readWord? (isStart isPart : Char → Bool) : List Char → Option (List Char × List Char)
  | [] => none
  | c :: s => if isStart c then some (c :: s.takeWhile isPart, s.dropWhile isPart) else none

def skipTrivia? (isBlank : Char → Bool)
    (comment? : List Char → Option (Option (List Char))) : Nat → List Char → Option (List Char)
  | 0, s => some s
  | fuel + 1, s =>
    let s' := s.dropWhile isBlank
    match comment? s' with
    | none => some s'
    | some none => none
    | some (some rest) => skipTrivia? isBlank comment? fuel rest

def skipLine (isLineEnd : Char → Bool) (s : List Char) : List Char :=
  s.dropWhile fun c => !isLineEnd c

/-- The input after a block comment whose opening has been read; `depth` more are open around it
if blocks nest. -/
def skipBlock? (nested : Bool) : Nat → List Char → Option (List Char)
  | _, [] => none
  | depth, '*' :: '/' :: s =>
    match depth with
    | 0 => some s
    | depth + 1 => skipBlock? nested depth s
  | depth, '/' :: '*' :: s => skipBlock? nested (if nested then depth + 1 else depth) s
  | depth, _ :: s => skipBlock? nested depth s

end SheetTemplate.Source
