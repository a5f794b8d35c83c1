import SheetTemplate.Script.NumberText
import SheetTemplate.Script.Syntax

namespace SheetTemplate.Script

open Source

structure Input where
  last : Option Token
  left : List Token

abbrev Reader := StateT Input Option

namespace Reader

def token : Reader Token := do
  match (← get).left with
  | [] => failure
  | t :: r => do
    set (Input.mk (some t) r)
    pure t

def lexeme? : Reader (Option Lexeme) := do pure ((← get).left.head?.map Token.lexeme)

def atSign (s : String) : Reader Bool := do
  match ← lexeme? with
  | some (.sign t) => pure (s == t)
  | _ => pure false

def sign (s : String) : Reader Bool := do
  if ← atSign s then
    let _ ← token
    pure true
  else pure false

def expect (s : String) : Reader Unit := do if ← sign s then pure () else failure

def atWord (s : String) : Reader Bool := do
  match ← lexeme? with
  | some (.word t) => pure (s == t)
  | _ => pure false

def word (s : String) : Reader Bool := do
  if ← atWord s then
    let _ ← token
    pure true
  else pure false

def name : Reader String := do
  match (← token).lexeme with
  | .word s | .name s => if isDeclarable s then pure s else failure
  | _ => failure

def atLineEnd : Reader Bool := do
  let s ← get
  match s.last, s.left with
  | _, [] => pure true
  | none, _ => pure false
  | some a, b :: _ => pure (brokenAfter a b)

def endOfStatement : Reader Unit := do
  if ← sign ";" then pure ()
  else if (← atSign "\x7d") || (← atLineEnd) then pure ()
  else failure

def here : Reader (List Char) := do pure (((← get).left.head?.map Token.front).getD [])

def since (start : List Char) : Reader String := do
  match (← get).last with
  | some t => pure (String.ofList (before start t.rest))
  | none => pure ""

end Reader

def table : List Infix.Row :=
  [⟨"??", .coalesce, 1, false⟩, ⟨"||", .or, 2, false⟩, ⟨"&&", .and, 3, false⟩,
   ⟨"==", .equal, 4, false⟩, ⟨"!=", .different, 4, false⟩, ⟨"===", .identical, 4, false⟩,
   ⟨"!==", .distinct, 4, false⟩, ⟨"<", .less, 5, false⟩, ⟨"<=", .atMost, 5, false⟩,
   ⟨">", .greater, 5, false⟩, ⟨">=", .atLeast, 5, false⟩, ⟨"in", .within, 5, false⟩,
   ⟨"+", .add, 6, false⟩, ⟨"-", .subtract, 6, false⟩, ⟨"*", .multiply, 7, false⟩,
   ⟨"/", .divide, 7, false⟩, ⟨"%", .remainder, 7, false⟩, ⟨"**", .power, 8, true⟩]

def compoundOperators : List (String × Operator) :=
  [("+=", .add), ("-=", .subtract), ("*=", .multiply), ("/=", .divide), ("%=", .remainder),
   ("**=", .power)]

def prefixSigns : List (String × Prefix) := [("-", .minus), ("+", .plus), ("!", .not)]

def prefixWords : List (String × Prefix) := [("typeof", .typeof), ("void", .void)]

def prefixOf? : Lexeme → Option Prefix
  | .sign s => prefixSigns.lookup s
  | .word s => prefixWords.lookup s
  | _ => none

def stepOf? : Option Lexeme → Option Operator
  | some (.sign "++") => some .add
  | some (.sign "--") => some .subtract
  | _ => none

def isTarget : Expr → Bool
  | .name n => isDeclarable n
  | .field .. | .index .. => true
  | _ => false

def keyOf? : Lexeme → Option Expr
  | .word s | .name s | .text s => some (.text s)
  | .float x => some (.text (numberText x))
  | _ => none

open Reader

mutual

def readExpr (fuel : Nat) : Reader Expr :=
  match fuel with
  | 0 => failure
  | fuel + 1 => do
    let e ← readAssignment fuel
    if ← sign "," then .sequence e <$> readExpr fuel else pure e

def readAssignment (fuel : Nat) : Reader Expr :=
  match fuel with
  | 0 => failure
  | fuel + 1 => readArrow fuel <|> readPlain fuel

def readArrow (fuel : Nat) : Reader Expr :=
  match fuel with
  | 0 => failure
  | fuel + 1 => do
    let start ← here
    let (parameters, rest) ←
      if ← sign "(" then readParameters fuel
      else do
        let n ← name
        pure ([⟨n, none⟩], none)
    if ← atLineEnd then failure
    expect "=>"
    let body ←
      if ← sign "\x7b" then readBody fuel
      else do
        let e ← readAssignment fuel
        pure [.return (some e)]
    pure (.function ⟨"", parameters, rest, body, true, ← since start⟩)

def readPlain (fuel : Nat) : Reader Expr :=
  match fuel with
  | 0 => failure
  | fuel + 1 => do
    let first ← readUnary fuel
    let steps ← readSteps fuel
    let e := treeOf (fun i => .binary i.operator) first steps
    if ← sign "?" then
      let yes ← readAssignment fuel
      expect ":"
      .choice e yes <$> readAssignment fuel
    else if isTarget e then
      if ← sign "=" then .assign e none <$> readAssignment fuel
      else
        match ← lexeme? with
        | some (.sign s) =>
          match compoundOperators.lookup s with
          | some op =>
            let _ ← token
            .assign e (some op) <$> readAssignment fuel
          | none => pure e
        | _ => pure e
    else pure e

def readSteps (fuel : Nat) : Reader (List (Infix × Expr)) :=
  match fuel with
  | 0 => failure
  | fuel + 1 => do
    match (← get).left.head?.bind (·.operator? table) with
    | none => pure []
    | some i =>
      let _ ← token
      let e ← readUnary fuel
      let more ← readSteps fuel
      pure ((i, e) :: more)

def readUnary (fuel : Nat) : Reader Expr :=
  match fuel with
  | 0 => failure
  | fuel + 1 => do
    match (← lexeme?).bind prefixOf?, stepOf? (← lexeme?) with
    | some op, _ =>
      let _ ← token
      let e ← readUnary fuel
      if ← atSign "**" then failure
      pure (.unary op e)
    | none, some op =>
      let _ ← token
      let e ← readUnary fuel
      if isTarget e then pure (.step e op false) else failure
    | none, none =>
      let e ← readPrimary fuel >>= readAccess fuel true
      match stepOf? (← lexeme?) with
      | some op =>
        if isTarget e && !(← atLineEnd) then
          let _ ← token
          pure (.step e op true)
        else failure
      | none => pure e

def readAccess (fuel : Nat) (calls : Bool) (e : Expr) : Reader Expr :=
  match fuel with
  | 0 => failure
  | fuel + 1 => do
    if ← sign "." then
      match (← token).lexeme with
      | .word n | .name n => readAccess fuel calls (.field e n)
      | _ => failure
    else if ← sign "[" then
      let key ← readExpr fuel
      expect "]"
      readAccess fuel calls (.index e key)
    else if calls && (← atSign "(") then
      expect "("
      let args ← readItems fuel ")" false
      readAccess fuel calls (.call e args)
    else pure e

def readPrimary (fuel : Nat) : Reader Expr :=
  match fuel with
  | 0 => failure
  | fuel + 1 => do
    let start ← here
    match (← token).lexeme with
    | .float x => pure (.number x)
    | .text s => pure (.text s)
    | .piece s last => do
      let (pieces, parts) ← if last then pure ([], []) else readPieces fuel
      pure (.template (s :: pieces) parts)
    | .sign "(" => do
      let e ← readExpr fuel
      expect ")"
      pure e
    | .sign "[" => .array <$> readItems fuel "]" true
    | .sign "\x7b" => .object <$> readMembers fuel
    | .word "null" => pure .null
    | .word "true" => pure (.bool true)
    | .word "false" => pure (.bool false)
    | .word "this" => pure .this
    | .word "function" => .function <$> readFunction fuel start
    | .word "new" => do
      let f ← readPrimary fuel >>= readAccess fuel false
      let args ← if ← sign "(" then readItems fuel ")" false else pure []
      pure (.construct f args)
    | .word n | .name n => if reserved.contains n then failure else pure (.name n)
    | _ => failure

def readPieces (fuel : Nat) : Reader (List String × List Expr) :=
  match fuel with
  | 0 => failure
  | fuel + 1 => do
    let e ← readExpr fuel
    match (← token).lexeme with
    | .piece s last => do
      let (pieces, parts) ← if last then pure ([], []) else readPieces fuel
      pure (s :: pieces, e :: parts)
    | _ => failure

def readItems (fuel : Nat) (close : String) (holes : Bool) : Reader (List Item) :=
  match fuel with
  | 0 => failure
  | fuel + 1 => do
    if ← sign close then pure []
    else if holes && (← atSign ",") then
      expect ","
      (.hole :: ·) <$> readItems fuel close holes
    else
      let item ← if ← sign "..." then .spread <$> readAssignment fuel else .one <$> readAssignment fuel
      if ← sign "," then (item :: ·) <$> readItems fuel close holes
      else do
        expect close
        pure [item]

def readMembers (fuel : Nat) : Reader (List Member) :=
  match fuel with
  | 0 => failure
  | fuel + 1 => do
    if ← sign "\x7d" then pure []
    else
      let m ← readMember fuel
      if ← sign "," then (m :: ·) <$> readMembers fuel
      else do
        expect "\x7d"
        pure [m]

def readMember (fuel : Nat) : Reader Member :=
  match fuel with
  | 0 => failure
  | fuel + 1 => do
    if ← sign "..." then .spread <$> readAssignment fuel
    else readGetter fuel <|> readMethod fuel <|> readField fuel

def readKey (fuel : Nat) : Reader Expr :=
  match fuel with
  | 0 => failure
  | fuel + 1 => do
    if ← sign "[" then
      let e ← readAssignment fuel
      expect "]"
      pure e
    else
      match keyOf? (← token).lexeme with
      | some key => pure key
      | none => failure

def readGetter (fuel : Nat) : Reader Member :=
  match fuel with
  | 0 => failure
  | fuel + 1 => do
    let start ← here
    if ← word "get" then
      let key ← readKey fuel
      expect "("
      expect ")"
      expect "\x7b"
      let body ← readBody fuel
      pure (.getter key ⟨"", [], none, body, false, ← since start⟩)
    else failure

def readMethod (fuel : Nat) : Reader Member :=
  match fuel with
  | 0 => failure
  | fuel + 1 => do
    let start ← here
    let key ← readKey fuel
    expect "("
    let (parameters, rest) ← readParameters fuel
    expect "\x7b"
    let body ← readBody fuel
    pure (.value key (.function ⟨"", parameters, rest, body, false, ← since start⟩))

def readField (fuel : Nat) : Reader Member :=
  match fuel with
  | 0 => failure
  | fuel + 1 => do
    let first ← lexeme?
    let key ← readKey fuel
    if ← sign ":" then .value key <$> readAssignment fuel
    else
      match first with
      | some (.word n) | some (.name n) =>
        if reserved.contains n then failure else pure (.value key (.name n))
      | _ => failure

def readParameters (fuel : Nat) : Reader (List Parameter × Option String) :=
  match fuel with
  | 0 => failure
  | fuel + 1 => do
    if ← sign ")" then pure ([], none)
    else if ← sign "..." then
      let n ← name
      expect ")"
      pure ([], some n)
    else
      let n ← name
      let value ← if ← sign "=" then some <$> readAssignment fuel else pure none
      if ← sign "," then
        let (more, rest) ← readParameters fuel
        pure (⟨n, value⟩ :: more, rest)
      else do
        expect ")"
        pure ([⟨n, value⟩], none)

def readFunction (fuel : Nat) (start : List Char) : Reader Function :=
  match fuel with
  | 0 => failure
  | fuel + 1 => do
    let n ← if ← atSign "(" then pure "" else name
    expect "("
    let (parameters, rest) ← readParameters fuel
    expect "\x7b"
    let body ← readBody fuel
    pure ⟨n, parameters, rest, body, false, ← since start⟩

def readBody (fuel : Nat) : Reader (List Statement) :=
  match fuel with
  | 0 => failure
  | fuel + 1 => do
    if ← sign "\x7d" then pure []
    else
      let s ← readStatement fuel
      (s :: ·) <$> readBody fuel

def readStatement (fuel : Nat) : Reader Statement :=
  match fuel with
  | 0 => failure
  | fuel + 1 => do
    let start ← here
    if ← sign ";" then pure .empty
    else if ← sign "\x7b" then .block <$> readBody fuel
    else if ← word "var" then .declare .var <$> readDeclarators fuel false
    else if ← word "let" then .declare .lexical <$> readDeclarators fuel false
    else if ← word "const" then .declare .constant <$> readDeclarators fuel true
    else if ← word "function" then
      let f ← readFunction fuel start
      match f with
      | ⟨n, _, _, _, _, _⟩ => if n.isEmpty then failure else pure (.function f)
    else if ← word "throw" then
      if ← atLineEnd then failure
      let e ← readExpr fuel
      endOfStatement
      pure (.throw e)
    else if ← word "return" then
      if (← atSign ";") || (← atSign "\x7d") || (← atLineEnd) then
        endOfStatement
        pure (.return none)
      else
        let e ← readExpr fuel
        endOfStatement
        pure (.return (some e))
    else if ← word "if" then
      expect "("
      let c ← readExpr fuel
      expect ")"
      let yes ← readStatement fuel
      if ← word "else" then
        let no ← readStatement fuel
        pure (.choice c yes (some no))
      else pure (.choice c yes none)
    else
      let e ← readExpr fuel
      endOfStatement
      pure (.expression e)

def readDeclarators (fuel : Nat) (needsValue : Bool) : Reader (List Parameter) :=
  match fuel with
  | 0 => failure
  | fuel + 1 => do
    let n ← name
    let value ← if ← sign "=" then some <$> readAssignment fuel else pure none
    if needsValue && value.isNone then failure
    else if ← sign "," then (⟨n, value⟩ :: ·) <$> readDeclarators fuel needsValue
    else do
      endOfStatement
      pure [⟨n, value⟩]

def readProgram (fuel : Nat) : Reader Program :=
  match fuel with
  | 0 => failure
  | fuel + 1 => do
    if (← get).left.isEmpty then pure []
    else
      let s ← readStatement fuel
      (s :: ·) <$> readProgram fuel

end

def returns : Statement → Bool
  | .return _ => true
  | .block body => returnsAny body
  | .choice _ yes no => returns yes || (match no with
    | some s => returns s
    | none => false)
  | _ => false
where
  returnsAny : List Statement → Bool
    | [] => false
    | s :: ss => returns s || returnsAny ss

def program? (code : List Char) : Option Program := do
  let ts ← tokens? code
  let (p, _) ← (readProgram (10 * ts.length + 10)).run ⟨none, ts⟩
  if p.any returns then none else some p

end SheetTemplate.Script
