import SheetTemplate.Expression.CelText
import SheetTemplate.Expression.CelValue
import SheetTemplate.Registry
import SheetTemplate.Text.Within

namespace SheetTemplate.Cel

open Source Number

inductive Failure where
  | syntaxError
  | undeclared (name : String)
  | noSuchKey (key : String)
  | badOperands (operation : String) (operands : List Value)
  | badArguments (function : String)
  | outOfRange (operation : String)

def Failure.message : Failure → String
  | syntaxError => "Failed to parse"
  | undeclared name => "Undeclared reference to '" ++ name ++ "'"
  | noSuchKey key => "No such key: " ++ key
  | badOperands operation operands =>
    "Unsupported operands of '" ++ operation ++ "': " ++
      String.intercalate ", " (operands.map Value.tagged)
  | badArguments function => "Invalid arguments of '" ++ function ++ "'"
  | outOfRange operation => "Result of '" ++ operation ++ "' is out of range"

abbrev Outcome := Except Failure

structure Scope where
  values : List (String × Value) := []

def Scope.add (s : Scope) (name : String) (v : Value) : Scope := ⟨(name, v) :: s.values⟩

def truth : Value → Bool
  | .null => false
  | .bool b => b
  | .int n => n != 0
  | .unsigned n => n != 0
  | .float x => x != 0
  | .text s => !s.isEmpty
  | .bytes b => !b.isEmpty
  | .list items => !items.isEmpty
  | .map entries => !entries.isEmpty
  | .foreign _ => false

mutual

def equal : Value → Value → Bool
  | .null, .null => true
  | .bool a, .bool b => a == b
  | .int a, .int b => a == b
  | .unsigned a, .unsigned b => a == b
  | .float a, .float b => a == b
  | .int a, .unsigned b => a == b
  | .unsigned a, .int b => a == b
  | .int a, .float b => ofInt a == b
  | .float a, .int b => a == ofInt b
  | .unsigned a, .float b => ofInt a == b
  | .float a, .unsigned b => a == ofInt b
  | .text a, .text b => a == b
  | .bytes a, .bytes b => a == b
  | .list a, .list b => equalItems a b
  | .map a, .map b => a.length == b.length && equalEntries a b
  | .foreign a, .foreign b => a == b
  | _, _ => false

def equalItems : List Value → List Value → Bool
  | [], [] => true
  | x :: xs, y :: ys => equal x y && equalItems xs ys
  | _, _ => false

def equalEntries : List (Key × Value) → List (Key × Value) → Bool
  | [], _ => true
  | (k, x) :: xs, ys =>
    (match ys.lookup k with
    | some y => equal x y
    | none => false) && equalEntries xs ys

end

def compareFloats? (a b : Float) : Option Ordering :=
  if a < b then some .lt else if b < a then some .gt else if a == b then some .eq else none

def order? : Value → Value → Option Ordering
  | .int a, .int b => some (compare a b)
  | .unsigned a, .unsigned b => some (compare a b)
  | .int a, .unsigned b => some (compare a b)
  | .unsigned a, .int b => some (compare (a : Int) b)
  | .float a, .float b => compareFloats? a b
  | .int a, .float b => compareFloats? (ofInt a) b
  | .float a, .int b => compareFloats? a (ofInt b)
  | .unsigned a, .float b => compareFloats? (ofInt a) b
  | .float a, .unsigned b => compareFloats? a (ofInt b)
  | .text a, .text b => some (compare a b)
  | .bool a, .bool b => some (compare a.toNat b.toNat)
  | .null, .null => some .eq
  | _, _ => none

def isOrdered (op : Operator) (o : Ordering) : Bool :=
  match op with
  | .less => o == .lt
  | .atMost => o != .gt
  | .greater => o == .gt
  | .atLeast => o != .lt
  | _ => false

def key? : Value → Option Key
  | .int n => some (.int n)
  | .unsigned n => some (.unsigned n)
  | .bool b => some (.bool b)
  | .text s => some (.text s)
  | _ => none

def within (a b : Value) : Outcome Bool :=
  match a, b with
  | .text part, .text s => pure (Text.contains part.toList s.toList)
  | a, .list items => pure (items.any (equal a))
  | a, .map entries =>
    match key? a with
    | some k => pure (entries.lookup k).isSome
    | none => pure false
  | a, b => throw (.badOperands "in" [a, b])

def fittedInt (operation : String) (n : Int) : Outcome Value :=
  if leastInt64 ≤ n ∧ n ≤ greatestInt64 then pure (.int n) else throw (.outOfRange operation)

def fittedUnsigned (operation : String) (n : Int) : Outcome Value :=
  if 0 ≤ n ∧ n ≤ greatestNat64 then pure (.unsigned n.toNat) else throw (.outOfRange operation)

def wholeResult? (op : Operator) (a b : Int) : Option Int :=
  match op with
  | .add => some (a + b)
  | .subtract => some (a - b)
  | .multiply => some (a * b)
  | .divide => if b = 0 then none else some (a.tdiv b)
  | .remainder => if b = 0 then none else some (a.tmod b)
  | _ => none

def floatResult? (op : Operator) (a b : Float) : Option Float :=
  match op with
  | .add => some (a + b)
  | .subtract => some (a - b)
  | .multiply => some (a * b)
  | .divide => some (a / b)
  | _ => none

def float? : Value → Option Float
  | .int n => some (ofInt n)
  | .unsigned n => some (ofInt n)
  | .float x => some x
  | _ => none

def merged (a b : List (Key × Value)) : List (Key × Value) :=
  a.filter (fun p => (b.lookup p.1).isNone) ++ b

def reckoned (i : Infix) (a b : Value) : Outcome Value :=
  let bad : Failure := .badOperands i.spelling [a, b]
  match a, b with
  | .int m, .int n =>
    match wholeResult? i.operator m n with
    | some r => fittedInt i.spelling r
    | none => throw (.outOfRange i.spelling)
  | .unsigned m, .unsigned n =>
    match wholeResult? i.operator m n with
    | some r => fittedUnsigned i.spelling r
    | none => throw (.outOfRange i.spelling)
  | .int _, .unsigned _ | .unsigned _, .int _ => throw bad
  | .text s, .text t => if i.operator = .add then pure (.text (s ++ t)) else throw bad
  | .list s, .list t => if i.operator = .add then pure (.list (s ++ t)) else throw bad
  | .map s, .map t => if i.operator = .add then pure (.map (merged s t)) else throw bad
  | a, b =>
    match float? a, float? b with
    | some x, some y =>
      match floatResult? i.operator x y with
      | some r => pure (.float r)
      | none => throw bad
    | _, _ => throw bad

def applied (i : Infix) (a b : Value) : Outcome Value :=
  match i.operator with
  | .equal => pure (.bool (equal a b))
  | .different => pure (.bool (!equal a b))
  | .less | .atMost | .greater | .atLeast =>
    match order? a b with
    | some o => pure (.bool (isOrdered i.operator o))
    | none => throw (.badOperands i.spelling [a, b])
  | .within => .bool <$> within a b
  | _ => reckoned i a b

def applyUnary (op : Unary) (v : Value) : Outcome Value :=
  match op, v with
  | .not, v => pure (.bool (!truth v))
  | .truth, v => pure (.bool (truth v))
  | .negate, .int n => fittedInt "-" (-n)
  | .negate, .float x => pure (.float (negate x))
  | .negate, v => throw (.badOperands "-" [v])
  | .plus, v => if v.quantity?.isSome then pure v else throw (.badOperands "--" [v])

def byteOf? (s : String) (n : Int) : Option String :=
  if n < 0 then none
  else (String.fromUTF8? (s.toUTF8.extract n.toNat (n.toNat + 1))).bind fun t =>
    if t.isEmpty then none else some t

def itemOf (v index : Value) : Outcome Value :=
  match v, index with
  | .list items, .int n => pure (if n < 0 then .null else (items[n.toNat]?).getD .null)
  | .text s, .int n => pure ((byteOf? s n).elim .null .text)
  | .map entries, k =>
    match key? k with
    | some k => pure ((entries.lookup k).getD .null)
    | none => throw (.badOperands "[]" [.map entries, k])
  | v, i => throw (.badOperands "[]" [v, i])

def fieldOf (v : Value) (name : String) : Outcome Value :=
  match v with
  | .map entries =>
    match entries.lookup (.text name) with
    | some x => pure x
    | none => throw (.noSuchKey name)
  | _ => throw (.noSuchKey name)

/-- What an argument means in a scope, and its name if it is nothing but a name. -/
structure Argument where
  name? : Option String
  value : Scope → Outcome Value

def sizeOfValue : Value → Outcome Value
  | .list items => pure (.int items.length)
  | .map entries => pure (.int entries.length)
  | .text s => pure (.int s.utf8ByteSize)
  | .bytes b => pure (.int b.length)
  | v => throw (.badOperands "size" [v])

def textOf : Value → Outcome Value
  | .text s => pure (.text s)
  | .int n => pure (.text (intText n))
  | .unsigned n => pure (.text (natText n))
  | .float x => pure (.text (plainText x))
  | .bytes b =>
    match String.fromUTF8? ⟨b.toArray⟩ with
    | some s => pure (.text s)
    | none => throw (.badOperands "string" [.bytes b])
  | v => throw (.badOperands "string" [v])

def doubleOf (v : Value) : Outcome Value :=
  match v with
  | .text s =>
    match Number.readFloat? s.toList with
    | some x => pure (.float x)
    | none => throw (.badOperands "double" [v])
  | v =>
    match float? v with
    | some x => pure (.float x)
    | none => throw (.badOperands "double" [v])

def readWhole? (s : String) : Option Int :=
  let value (minus : Bool) (ds : List Char) : Option Int :=
    if ds.isEmpty || !ds.all Char.isDigit then none
    else
      let n : Int := digitsValue ds
      some (if minus then -n else n)
  match s.toList with
  | '-' :: ds => value true ds
  | '+' :: ds => value false ds
  | ds => value false ds

def whole? : Value → Option Int
  | .int n => some n
  | .unsigned n => some n
  | .float x => if isFinite x then some (wholePart x) else none
  | .text s => readWhole? s
  | _ => none

def intOf (v : Value) : Outcome Value :=
  match whole? v with
  | some n => fittedInt "int" n
  | none => throw (.badOperands "int" [v])

def unsignedOf (v : Value) : Outcome Value :=
  match whole? v with
  | some n => fittedUnsigned "uint" n
  | none => throw (.badOperands "uint" [v])

def containsValue (whole part : Value) : Value :=
  match whole, part with
  | .list items, x => .bool (items.any (equal x))
  | .map entries, x => .bool ((key? x).any fun k => (entries.lookup k).isSome)
  | .text s, .text t => .bool (Text.contains t.toList s.toList)
  | _, _ => .bool false

def extreme (function : String) (greatest : Bool) : List Value → Outcome Value
  | [] => pure .null
  | v :: vs => vs.foldlM (fun best x =>
      match order? x best with
      | some o => pure (if o == (if greatest then .gt else .lt) then x else best)
      | none => throw (.badOperands function [best, x])) v

def itemsOf (function : String) : Value → Outcome (List Value)
  | .list items => pure items
  | v => throw (.badOperands function [v])

def membersOf (function : String) : Value → Outcome (List Value)
  | .list items => pure items
  | .map entries => pure (entries.map fun p =>
      match p.1 with
      | .int n => .int n
      | .unsigned n => .unsigned n
      | .bool b => .bool b
      | .text s => .text s)
  | v => throw (.badOperands function [v])

def isTrue : Value → Bool
  | .bool b => b
  | _ => false

def isFalse : Value → Bool
  | .bool b => !b
  | _ => false

def anyItem (p : Value → Outcome Bool) : List Value → Outcome Bool
  | [] => pure false
  | x :: xs => do if ← p x then pure true else anyItem p xs

def functionNames : List String :=
  ["contains", "size", "has", "map", "filter", "all", "exists", "exists_one", "max", "min",
   "startsWith", "endsWith", "string", "bytes", "double", "int", "uint"]

def applyFunction (s : Scope) (function : String) (args : List Argument) : Outcome Value :=
  match function, args with
  | "size", a :: _ => a.value s >>= sizeOfValue
  | "string", a :: _ => a.value s >>= textOf
  | "double", a :: _ => a.value s >>= doubleOf
  | "int", a :: _ => a.value s >>= intOf
  | "uint", a :: _ => a.value s >>= unsignedOf
  | "bytes", a :: _ => do
    match ← a.value s with
    | .text t => pure (.bytes t.toUTF8.toList)
    | v => throw (.badOperands function [v])
  | "has", a :: _ =>
    match a.value s with
    | .ok _ => pure (.bool true)
    | .error (.noSuchKey _) => pure (.bool false)
    | .error e => .error e
  | "contains", [a, b] => do
    let whole ← a.value s
    pure (containsValue whole (← b.value s))
  | "startsWith", [a, b] => do
    match ← a.value s, ← b.value s with
    | .text t, .text u => pure (.bool (u.toList.isPrefixOf t.toList))
    | x, y => throw (.badOperands function [x, y])
  | "endsWith", [a, b] => do
    match ← a.value s, ← b.value s with
    | .text t, .text u => pure (.bool (u.toList.isSuffixOf t.toList))
    | x, y => throw (.badOperands function [x, y])
  | "max", args => values s args >>= extreme function true
  | "min", args => values s args >>= extreme function false
  | "map", [a, ⟨some x, _⟩, e] => do
    let items ← a.value s >>= itemsOf function
    .list <$> items.mapM fun v => e.value (s.add x v)
  | "filter", [a, ⟨some x, _⟩, e] => do
    let items ← a.value s >>= itemsOf function
    .list <$> items.filterM fun v => isTrue <$> e.value (s.add x v)
  | "exists", [a, ⟨some x, _⟩, e] => do
    let items ← a.value s >>= membersOf function
    .bool <$> anyItem (fun v => isTrue <$> e.value (s.add x v)) items
  | "all", [a, ⟨some x, _⟩, e] => do
    let items ← a.value s >>= membersOf function
    (fun b => .bool !b) <$> anyItem (fun v => isFalse <$> e.value (s.add x v)) items
  | "exists_one", [a, ⟨some x, _⟩, e] => do
    let items ← a.value s >>= membersOf function
    let found ← items.filterM fun v => isTrue <$> e.value (s.add x v)
    pure (.bool (found.length == 1))
  | f, _ => throw (if functionNames.contains f then .badArguments f else .undeclared f)
where
  /-- The arguments, or the items of the only one if it is a list. -/
  values (s : Scope) (args : List Argument) : Outcome (List Value) := do
    let vs : List Value ← args.mapM fun a => a.value s
    match vs with
    | [.list items] => pure items
    | vs => pure vs

def constantValue : Constant → Value
  | .null => .null
  | .bool b => .bool b
  | .int n => .int n
  | .unsigned n => .unsigned n
  | .float x => .float x
  | .char c => .text (String.singleton c)
  | .text s => .text s
  | .bytes b => .bytes b

def nameOf? : Expression → Option String
  | .name _ name => some name
  | _ => none

def mapOf (keys values : List Value) : Outcome Value := do
  let keys ← keys.mapM fun k =>
    match key? k with
    | some k => pure k
    | none => throw (.badOperands "\x7b\x7d" [k])
  pure (.map ((keys.zip values).foldl (fun m p => merged m [p]) []))

mutual

def meaning : Expression → Scope → Outcome Value
  | .constant _ c, _ => pure (constantValue c)
  | .name _ name, s =>
    match s.values.lookup name with
    | some v => pure v
    | none => throw (.undeclared name)
  | .unary _ op e, s => do applyUnary op (← meaning e s)
  | .binary i left right, s => do
    let a ← meaning left s
    match i.operator with
    | .or => if truth a then pure a else meaning right s
    | .and => if truth a then (fun b => .bool (truth b)) <$> meaning right s else pure a
    | _ => applied i a (← meaning right s)
  | .choice c yes no, s => do
    if truth (← meaning c s) then meaning yes s else meaning no s
  | .item e index, s => do
    let v ← meaning e s
    itemOf v (← meaning index s)
  | .field _ e name, s => do fieldOf (← meaning e s) name
  | .call _ f args, s => applyFunction s f (meanings args)
  | .method _ e f args, s => applyFunction s f (⟨nameOf? e, meaning e⟩ :: meanings args)
  | .list _ items, s => .list <$> (meanings items).mapM (·.value s)
  | .record _ keys values, s => do
    let ks ← (meanings keys).mapM (·.value s)
    mapOf ks (← (meanings values).mapM (·.value s))

def meanings : List Expression → List Argument
  | [] => []
  | e :: es => ⟨nameOf? e, meaning e⟩ :: meanings es

end

def Scope.value (s : Scope) (code : String) : Outcome Value :=
  match expression? code with
  | some e => meaning e s
  | none => throw .syntaxError

def Scope.bind (s : Scope) (data : DataMap) : Scope :=
  data.foldl (fun s p => s.add p.1 (.ofJson p.2)) s

instance : Language Scope where
  name _ := "cel"
  bind data s := (.ok (), s.bind data)
  evaluate code direction format s :=
    match s.value code with
    | .ok v => (shape direction format v, s)
    | .error e => (.error (.evaluation "cel" e.message), s)

end SheetTemplate.Cel
