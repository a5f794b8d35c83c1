import SheetTemplate.Expression.Syntax

namespace SheetTemplate

open Source

structure Grammar where
  operators : List Infix.Row
  unary : List (String × Unary)
  words : List (String × Constant)
  opening : String
  plainKeys : Bool
  choices : Bool
  unit : Bool

namespace Grammar

variable (g : Grammar)

abbrev Tokens := List Token

def expect? (sign : String) : Tokens → Option Tokens
  | ⟨.sign s, _, _, _⟩ :: r => if s == sign then some r else none
  | _ => none

def startsWith (sign : String) (ts : Tokens) : Bool := (expect? sign ts).isSome

def literal? : Lexeme → Option Constant
  | .int n => some (.int n)
  | .unsigned n => some (.unsigned n)
  | .float x => some (.float x)
  | .char c => some (.char c)
  | .text s => some (.text s)
  | .bytes b => some (.bytes b)
  | _ => none

def plainKey? : Tokens → Option (Expression × Tokens)
  | ⟨.word s, p, _, _⟩ :: r | ⟨.text s, p, _, _⟩ :: r => some (.constant p (.text s), r)
  | _ => none

def unaryOf? (t : Token) : Option Unary :=
  match t.lexeme with
  | .sign s => g.unary.lookup s
  | _ => none

mutual

def readExpression? (fuel : Nat) (ts : Tokens) : Option (Expression × Tokens) :=
  match fuel with
  | 0 => none
  | fuel + 1 => do
    let (e, r) ← readChain? fuel ts
    match (if g.choices then expect? "?" r else none) with
    | none => some (e, r)
    | some r => do
      let (yes, r) ← readExpression? fuel r
      let r ← expect? ":" r
      let (no, r) ← readExpression? fuel r
      some (.choice e yes no, r)

def readChain? (fuel : Nat) (ts : Tokens) : Option (Expression × Tokens) :=
  match fuel with
  | 0 => none
  | fuel + 1 => do
    let (first, r) ← readUnary? fuel ts
    let (steps, r) ← readSteps? fuel r
    some (treeOf .binary first steps, r)

def readSteps? (fuel : Nat) (ts : Tokens) : Option (List (Infix × Expression) × Tokens) :=
  match fuel with
  | 0 => none
  | fuel + 1 =>
    match ts with
    | [] => some ([], [])
    | t :: r =>
      match t.operator? g.operators with
      | none => some ([], t :: r)
      | some i => do
        let (e, r) ← readUnary? fuel r
        let (steps, r) ← readSteps? fuel r
        some ((i, e) :: steps, r)

def readUnary? (fuel : Nat) (ts : Tokens) : Option (Expression × Tokens) :=
  match fuel with
  | 0 => none
  | fuel + 1 =>
    match ts with
    | [] => none
    | t :: r =>
      match g.unaryOf? t with
      | some op => do
        let (e, r) ← readUnary? fuel r
        some (.unary t.position op e, r)
      | none => do
        let (e, r) ← readPrimary? fuel t r
        readAccess? fuel e r

def readPrimary? (fuel : Nat) (t : Token) (r : Tokens) : Option (Expression × Tokens) :=
  match fuel with
  | 0 => none
  | fuel + 1 =>
    match t.lexeme with
    | .word s =>
      match g.words.lookup s with
      | some c => some (.constant t.position c, r)
      | none =>
        if (t.operator? g.operators).isSome then none
        else
          match expect? "(" r with
          | some r => do
            let (args, r) ← readItems? fuel ")" r
            some (.call t.position s args, r)
          | none => some (.name t.position s, r)
    | .sign s =>
      if s == "(" then
        if g.unit && startsWith ")" r then some (.constant t.position .null, r.drop 1)
        else do
          let (e, r) ← readExpression? fuel r
          let r ← expect? ")" r
          some (e, r)
      else if s == "[" then do
        let (items, r) ← readItems? fuel "]" r
        some (.list t.position items, r)
      else if s == g.opening then do
        let (keys, values, r) ← readFields? fuel r
        some (.record t.position keys values, r)
      else none
    | x => (literal? x).map fun c => (.constant t.position c, r)

def readAccess? (fuel : Nat) (e : Expression) (ts : Tokens) : Option (Expression × Tokens) :=
  match fuel with
  | 0 => none
  | fuel + 1 =>
    match ts with
    | ⟨.sign ".", _, _, _⟩ :: ⟨.word name, p, _, _⟩ :: r =>
      match expect? "(" r with
      | some r => do
        let (args, r) ← readItems? fuel ")" r
        readAccess? fuel (.method p e name args) r
      | none => readAccess? fuel (.field p e name) r
    | ⟨.sign "[", _, _, _⟩ :: r => do
      let (index, r) ← readExpression? fuel r
      let r ← expect? "]" r
      readAccess? fuel (.item e index) r
    | _ => some (e, ts)

def readItems? (fuel : Nat) (close : String) (ts : Tokens) : Option (List Expression × Tokens) :=
  match fuel with
  | 0 => none
  | fuel + 1 =>
    match expect? close ts with
    | some r => some ([], r)
    | none => do
      let (e, r) ← readExpression? fuel ts
      match expect? "," r with
      | some r => do
        let (es, r) ← readItems? fuel close r
        some (e :: es, r)
      | none => do
        let r ← expect? close r
        some ([e], r)

def readFields? (fuel : Nat) (ts : Tokens) :
    Option (List Expression × List Expression × Tokens) :=
  match fuel with
  | 0 => none
  | fuel + 1 =>
    match expect? "\x7d" ts with
    | some r => some ([], [], r)
    | none => do
      let (key, r) ← if g.plainKeys then plainKey? ts else readExpression? fuel ts
      let r ← expect? ":" r
      let (value, r) ← readExpression? fuel r
      match expect? "," r with
      | some r => do
        let (keys, values, r) ← readFields? fuel r
        some (key :: keys, value :: values, r)
      | none => do
        let r ← expect? "\x7d" r
        some ([key], [value], r)

end

def expression? (ts : Tokens) : Option Expression :=
  match readExpression? g (8 * ts.length + 8) ts with
  | some (e, []) => some e
  | _ => none

end Grammar

end SheetTemplate
