import SheetTemplate.Script.Builtin
import SheetTemplate.Script.Grammar

namespace SheetTemplate.Script

open Source Number

def cellValue (name : String) (i : Nat) : Run Value := do
  match (← get).cells[i]? with
  | some ⟨some v, _⟩ => pure v
  | _ => raise "ReferenceError" (name ++ " is not initialized")

def address? (s : Scope) (name : String) : Run (Option Nat) := do
  match s.names.lookup name with
  | some i => pure (some i)
  | none => pure ((← get).lexicals.lookup name)

def globalSlot? (name : String) : Run (Option Slot) := do
  pure ((← object? globalId).bind fun o => o.fields.lookup name)

def setFirst (s : Scope) (name : String) (v : Value) (constant : Bool) : Run Unit := do
  match ← address? s name with
  | some i => setCell i ⟨some v, constant⟩
  | none => pure ()

def addSlot (v : Value) (key : String) (s : Slot) : Run Unit := do
  match v with
  | .object id =>
    match ← object? id with
    | some o => setObject id (o.withSlot key s)
    | none => pure ()
  | _ => pure ()

def woven : List String → List String → String
  | p :: ps, t :: ts => p ++ t ++ woven ps ts
  | ps, _ => String.join ps

def Scope.declare (s : Scope) (name : String) (c : Cell) : Run Scope := do
  pure { s with names := (name, ← newCell c) :: s.names }

def lexicalNames : List Statement → List String
  | [] => []
  | .declare .var _ :: rest => lexicalNames rest
  | .declare _ ds :: rest => ds.map (fun ⟨n, _⟩ => n) ++ lexicalNames rest
  | _ :: rest => lexicalNames rest

def functionsOf : List Statement → List Function
  | [] => []
  | .function f :: rest => f :: functionsOf rest
  | _ :: rest => functionsOf rest

def Function.name : Function → String
  | ⟨n, _, _, _, _, _⟩ => n

mutual

def varNames : Statement → List String
  | .declare .var ds => ds.map fun ⟨n, _⟩ => n
  | .block body => varNamesOf body
  | .choice _ yes no => varNames yes ++ varNamesIn no
  | _ => []

def varNamesIn : Option Statement → List String
  | none => []
  | some s => varNames s

def varNamesOf : List Statement → List String
  | [] => []
  | s :: ss => varNames s ++ varNamesOf ss

end

def Scope.enter (s : Scope) (body : List Statement) : Run Scope := do
  let s ← (lexicalNames body).foldlM (fun s n => s.declare n ⟨none, false⟩) s
  let fs := functionsOf body
  let s ← fs.foldlM (fun s f => s.declare f.name ⟨none, false⟩) s
  fs.forM fun f => do setFirst s f.name (← newObject ⟨.closure f s, []⟩) false
  pure s

section

variable (call : Caller)

def lookup (s : Scope) (name : String) : Run Value := do
  match ← address? s name with
  | some i => cellValue name i
  | none =>
    match ← globalSlot? name with
    | some slot => slotValue call (.object globalId) (some slot)
    | none =>
      match globalValues.lookup name with
      | some v => pure v
      | none => raise "ReferenceError" (name ++ " is not defined")

def assign (s : Scope) (name : String) (v : Value) : Run Unit := do
  match ← address? s name with
  | some i => do
    let _ ← cellValue name i
    match (← get).cells[i]? with
    | some ⟨_, true⟩ => raise "TypeError" ("'" ++ name ++ "' is read-only")
    | _ => setCell i ⟨some v, false⟩
  | none =>
    if (← globalSlot? name).isSome then putField (.object globalId) name v
    else if fixedNames.contains name then raise "TypeError" ("'" ++ name ++ "' is read-only")
    else if (globalValues.lookup name).isSome then putField (.object globalId) name v
    else raise "ReferenceError" (name ++ " is not defined")

def isText : Value → Bool
  | .text _ => true
  | _ => false

def added (a b : Value) : Run Value := do
  let a ← toPrimitive call false a
  let b ← toPrimitive call false b
  if isText a || isText b then do
    let s ← toText call a
    pure (.text (s ++ (← toText call b)))
  else do
    let x ← toNumber call a
    pure (.number (x + (← toNumber call b)))

def raised (x y : Float) : Float :=
  if isNan y || (!isFinite y && code x == code (ofInt 1)) then nan else Float.pow x y

def less? (a b : Value) : Run (Option Ordering) := do
  let a ← toPrimitive call false a
  let b ← toPrimitive call false b
  match a, b with
  | .text s, .text t => pure (some (compare s t))
  | a, b => do
    let x ← toNumber call a
    let y ← toNumber call b
    pure (if x < y then some .lt else if y < x then some .gt else if x == y then some .eq else none)

def looselyEqual (a b : Value) : Run Bool := do
  if isNothing a || isNothing b then pure (isNothing a && isNothing b)
  else if sameType a b then pure (identical a b)
  else do
    let a ← toPrimitive call false a
    let b ← toPrimitive call false b
    if sameType a b then pure (identical a b)
    else
      match primitiveNumber? a, primitiveNumber? b with
      | some x, some y => pure (x == y)
      | _, _ => pure false
where
  sameType : Value → Value → Bool
    | .text _, .text _ | .symbol .., .symbol .. => true
    | .builtin _, v | .object _, v => !isPrimitive v
    | _, _ => false

def hasField (v : Value) (key : String) : Run Bool := do
  match v with
  | .object id =>
    match ← object? id with
    | some o => pure ((o.slot? key).isSome || (o.kind.inherited.lookup key).isSome)
    | none => pure false
  | .builtin b => pure (b.fields.lookup key).isSome
  | _ => raise "TypeError" "invalid 'in' operand"

def reckoned (f : Float → Float → Float) (a b : Value) : Run Value := do
  let x ← toNumber call a
  pure (.number (f x (← toNumber call b)))

def ordered (p : Ordering → Bool) (a b : Value) : Run Value := do
  pure (.bool ((← less? call a b).any p))

def applyBinary (op : Operator) (a b : Value) : Run Value :=
  match op with
  | .add => added call a b
  | .subtract => reckoned call (· - ·) a b
  | .multiply => reckoned call (· * ·) a b
  | .divide => reckoned call (· / ·) a b
  | .remainder => reckoned call remainder a b
  | .power => reckoned call raised a b
  | .less => ordered call (· == .lt) a b
  | .atMost => ordered call (· != .gt) a b
  | .greater => ordered call (· == .gt) a b
  | .atLeast => ordered call (· != .lt) a b
  | .equal => .bool <$> looselyEqual call a b
  | .different => (fun e => .bool !e) <$> looselyEqual call a b
  | .identical => pure (.bool (identical a b))
  | .distinct => pure (.bool !(identical a b))
  | .within => do pure (.bool (← hasField b (← toKey call a)))
  | _ => pure .undefined

def typeText (v : Value) : Run String := do
  match v with
  | .undefined => pure "undefined"
  | .null => pure "object"
  | .bool _ => pure "boolean"
  | .number _ => pure "number"
  | .text _ => pure "string"
  | .symbol .. => pure "symbol"
  | .builtin _ => pure "function"
  | .object id =>
    match ← object? id with
    | some ⟨.closure .., _⟩ => pure "function"
    | _ => pure "object"

def applyPrefix (op : Prefix) (v : Value) : Run Value :=
  match op with
  | .minus => (fun x => .number (negate x)) <$> toNumber call v
  | .plus => .number <$> toNumber call v
  | .not => pure (.bool (!truth v))
  | .typeof => .text <$> typeText v
  | .void => pure .undefined

def construct (f : Value) (args : List Value) : Run Value := do
  match f with
  | .builtin b => constructBuiltin call b args
  | .object id =>
    match ← object? id with
    | some ⟨.closure ⟨_, _, _, _, false, _⟩ _, _⟩ =>
      let this ← newObject ⟨.plain, []⟩
      let r ← call f this args
      pure (if isPrimitive r then this else r)
    | _ => raise "TypeError" "not a constructor"
  | _ => raise "TypeError" "not a constructor"

def spreadItems (v : Value) : Run (List Value) := do
  match v with
  | .text s => pure (s.toList.map fun c => .text (String.singleton c))
  | v =>
    match ← itemsOf? v with
    | some items => itemValues call v items
    | none => raise "TypeError" "value is not iterable"

def spreadFields (v : Value) : Run (List (String × Slot)) := do
  match v with
  | .object id =>
    match ← object? id with
    | some o =>
      let own := match o.kind with
        | .array items => items.toList.zipIdx.filterMap fun (s, i) => s.map (natText i, ·)
        | _ => []
      (own ++ o.fields).mapM fun (k, s) => do pure (k, .value (← slotValue call v (some s)))
    | none => pure []
  | _ => pure []

inductive Completion where
  | normal (v : Option Value)
  | returned (v : Value)

mutual

def evaluate (s : Scope) : Expr → Run Value
  | .null => pure .null
  | .bool b => pure (.bool b)
  | .number x => pure (.number x)
  | .text t => pure (.text t)
  | .template pieces parts => do
    let texts ← evaluateTexts s parts
    pure (.text (woven pieces texts))
  | .name n => lookup call s n
  | .this => pure s.this
  | .array items => do newObject ⟨.array (← evaluateItems s items).toArray, []⟩
  | .object members => do
    let v ← newObject ⟨.plain, []⟩
    evaluateMembers s v members
    pure v
  | .function f => newObject ⟨.closure f s, []⟩
  | .unary op e => do
    match op, e with
    | .typeof, .name n =>
      let declared := (← address? s n).isSome || (← globalSlot? n).isSome ||
        (globalValues.lookup n).isSome
      if declared then applyPrefix call op (← evaluate s e) else pure (.text "undefined")
    | _, _ => applyPrefix call op (← evaluate s e)
  | .binary op left right => do
    let a ← evaluate s left
    match op with
    | .or => if truth a then pure a else evaluate s right
    | .and => if truth a then evaluate s right else pure a
    | .coalesce => if isNothing a then evaluate s right else pure a
    | op => applyBinary call op a (← evaluate s right)
  | .choice c yes no => do
    if truth (← evaluate s c) then evaluate s yes else evaluate s no
  | .assign (.name n) op e => do
    match op with
    | none =>
      let v ← evaluate s e
      assign s n v
      pure v
    | some op =>
      let old ← lookup call s n
      let v ← applyBinary call op old (← evaluate s e)
      assign s n v
      pure v
  | .assign (.field o k) op e => do
    let o ← evaluate s o
    let v ← match op with
      | none => evaluate s e
      | some op => do
        let old ← getField call o k
        applyBinary call op old (← evaluate s e)
    putField o k v
    pure v
  | .assign (.index o k) op e => do
    let o ← evaluate s o
    let k ← evaluate s k >>= toKey call
    let v ← match op with
      | none => evaluate s e
      | some op => do
        let old ← getField call o k
        applyBinary call op old (← evaluate s e)
    putField o k v
    pure v
  | .assign .. => raise "SyntaxError" "invalid assignment left-hand side"
  | .step (.name n) op after => do
    let old ← lookup call s n >>= toNumber call
    let new ← applyBinary call op (.number old) (.number (ofInt 1))
    assign s n new
    pure (if after then .number old else new)
  | .step (.field o k) op after => do
    let o ← evaluate s o
    let old ← getField call o k >>= toNumber call
    let new ← applyBinary call op (.number old) (.number (ofInt 1))
    putField o k new
    pure (if after then .number old else new)
  | .step (.index o k) op after => do
    let o ← evaluate s o
    let k ← evaluate s k >>= toKey call
    let old ← getField call o k >>= toNumber call
    let new ← applyBinary call op (.number old) (.number (ofInt 1))
    putField o k new
    pure (if after then .number old else new)
  | .step .. => raise "SyntaxError" "invalid increment/decrement operand"
  | .field e n => do getField call (← evaluate s e) n
  | .index e k => do
    let v ← evaluate s e
    let k ← evaluate s k
    if isNothing v then getField call v (keyText k) else getField call v (← toKey call k)
  | .call (.field e n) args => do
    let this ← evaluate s e
    let f ← getField call this n
    call f this (← evaluateArgs s args)
  | .call (.index e k) args => do
    let this ← evaluate s e
    let k ← evaluate s k >>= toKey call
    let f ← getField call this k
    call f this (← evaluateArgs s args)
  | .call f args => do
    let f ← evaluate s f
    call f .undefined (← evaluateArgs s args)
  | .construct f args => do
    let f ← evaluate s f
    construct call f (← evaluateArgs s args)
  | .sequence a b => do
    let _ ← evaluate s a
    evaluate s b

def evaluateTexts (s : Scope) : List Expr → Run (List String)
  | [] => pure []
  | e :: es => do
    let t ← evaluate s e >>= toText call
    pure (t :: (← evaluateTexts s es))

def evaluateItems (s : Scope) : List Item → Run (List (Option Slot))
  | [] => pure []
  | .hole :: rest => do pure (none :: (← evaluateItems s rest))
  | .one e :: rest => do
    let v ← evaluate s e
    pure (some (.value v) :: (← evaluateItems s rest))
  | .spread e :: rest => do
    let vs ← evaluate s e >>= spreadItems call
    pure (vs.map (fun v => some (.value v)) ++ (← evaluateItems s rest))

def evaluateArgs (s : Scope) : List Item → Run (List Value)
  | [] => pure []
  | .hole :: rest => do pure (.undefined :: (← evaluateArgs s rest))
  | .one e :: rest => do
    let v ← evaluate s e
    pure (v :: (← evaluateArgs s rest))
  | .spread e :: rest => do
    let vs ← evaluate s e >>= spreadItems call
    pure (vs ++ (← evaluateArgs s rest))

def evaluateMembers (s : Scope) (v : Value) : List Member → Run Unit
  | [] => pure ()
  | .value key e :: rest => do
    let k ← evaluate s key >>= toKey call
    let x ← evaluate s e
    addSlot v k (.value x)
    evaluateMembers s v rest
  | .getter key f :: rest => do
    let k ← evaluate s key >>= toKey call
    let g ← newObject ⟨.closure f s, []⟩
    addSlot v k (.getter g)
    evaluateMembers s v rest
  | .spread e :: rest => do
    let fields ← evaluate s e >>= spreadFields call
    fields.forM fun (k, x) => addSlot v k x
    evaluateMembers s v rest

def execute (s : Scope) : Statement → Run Completion
  | .empty => pure (.normal none)
  | .declare kind ds => do
    executeDeclarators s kind ds
    pure (.normal none)
  | .function _ => pure (.normal none)
  | .expression e => do pure (.normal (some (← evaluate s e)))
  | .throw e => do throw (← evaluate s e)
  | .return none => pure (.returned .undefined)
  | .return (some e) => do pure (.returned (← evaluate s e))
  | .block body => do executeAll (← s.enter body) none body
  | .choice c yes none => do
    if truth (← evaluate s c) then execute s yes else pure (.normal (some .undefined))
  | .choice c yes (some no) => do
    if truth (← evaluate s c) then execute s yes else execute s no

def executeDeclarators (s : Scope) (kind : Kind) : List Parameter → Run Unit
  | [] => pure ()
  | ⟨n, none⟩ :: rest => do
    if kind = .var then pure () else setFirst s n .undefined false
    executeDeclarators s kind rest
  | ⟨n, some e⟩ :: rest => do
    let v ← evaluate s e
    if kind = .var then assign s n v else setFirst s n v (kind = .constant)
    executeDeclarators s kind rest

def executeAll (s : Scope) (value : Option Value) : List Statement → Run Completion
  | [] => pure (.normal value)
  | st :: rest => do
    match ← execute s st with
    | .normal v => executeAll s (v.or value) rest
    | .returned v => pure (.returned v)

end

def bindParameters (s : Scope) : List Parameter → List Value → Run Scope
  | [], _ => pure s
  | ⟨n, default⟩ :: ps, args => do
    let v ← match args.headD .undefined, default with
      | .undefined, some e => evaluate call s e
      | v, _ => pure v
    bindParameters (← s.declare n ⟨some v, false⟩) ps args.tail

def callClosure (self : Value) (f : Function) (s : Scope) (this : Value) (args : List Value) :
    Run Value := do
  let ⟨name, parameters, rest, body, arrow, _⟩ := f
  let s := if arrow then s else { s with this }
  let s ← if name.isEmpty then pure s else s.declare name ⟨some self, true⟩
  let s ← bindParameters call s parameters args
  let s ← match rest with
    | some n => do s.declare n ⟨some (← newArray (args.drop parameters.length)), false⟩
    | none => pure s
  let bound := parameters.map fun ⟨n, _⟩ => n
  let vars := (varNamesOf body).eraseDups.filter fun n => !bound.contains n
  let s ← vars.foldlM (fun s n => s.declare n ⟨some .undefined, false⟩) s
  match ← executeAll call (← s.enter body) none body with
  | .returned v => pure v
  | .normal _ => pure .undefined

end

def maxDepth : Nat := 400

def callWithin : Nat → Caller
  | 0, _, _, _ => raise "InternalError" "stack overflow"
  | depth + 1, f, this, args => do
    match f with
    | .builtin b => callBuiltin (callWithin depth) b this args
    | .object id =>
      match ← object? id with
      | some ⟨.closure g s, _⟩ => callClosure (callWithin depth) f g s this args
      | _ => raise "TypeError" "not a function"
    | _ => raise "TypeError" "not a function"

def callValue : Caller := callWithin maxDepth

def redeclared {α : Type} (name : String) : Run α :=
  raise "SyntaxError" ("redeclaration of '" ++ name ++ "'")

def declareLexical (name : String) (c : Cell) : Run Unit := do
  let taken := ((← get).lexicals.lookup name).isSome || (← globalSlot? name).isSome ||
    fixedNames.contains name
  if taken then redeclared name
  else
    let i ← newCell c
    modify fun r => { r with lexicals := (name, i) :: r.lexicals }

def declareVar (name : String) : Run Unit := do
  if (← globalSlot? name).isNone && !fixedNames.contains name then
    addSlot (.object globalId) name (.value .undefined)

def outermost : Scope := ⟨[], .object globalId⟩

/-- Declares what a script declares, all or nothing. -/
def declareAll (p : Program) : Run Unit := do
  let vars := (varNamesOf p ++ (functionsOf p).map Function.name).eraseDups
  let names := lexicalNames p
  let r ← get
  match vars.find? fun n => (r.lexicals.lookup n).isSome || names.contains n with
  | some n => redeclared n
  | none =>
    let o ← object? globalId
    let taken (n : String) : Bool :=
      (r.lexicals.lookup n).isSome || fixedNames.contains n ||
        o.any fun o => (o.fields.lookup n).isSome
    match names.find? taken, names.find? fun n => 1 < names.count n with
    | some n, _ | _, some n => redeclared n
    | none, none =>
      names.forM fun n => declareLexical n ⟨none, false⟩
      vars.forM declareVar
      (functionsOf p).forM fun f => do
        putField (.object globalId) f.name (← newObject ⟨.closure f outermost, []⟩)

def runProgram (p : Program) : Run Value := do
  declareAll p
  match ← executeAll callValue outermost none p with
  | .normal v => pure (v.getD .undefined)
  | .returned v => pure v

def runCode (code : String) : Run Value :=
  match program? code.toList with
  | some p => runProgram p
  | none => raise "SyntaxError" "unexpected token in script"

end SheetTemplate.Script
