import SheetTemplate.Expression.RhaiText
import SheetTemplate.Expression.RhaiValue
import SheetTemplate.Registry
import SheetTemplate.Text.Within

namespace SheetTemplate.Rhai

open Source Number

structure Scope where
  constants : List (String × Value) := []

abbrev Outcome := Except String

def failAt {α : Type} (p : Position) (reason : String) : Outcome α :=
  throw (reason ++ " (" ++ p.text ++ ")")

def notFound {α : Type} (p : Position) (function : String) (args : List Value) : Outcome α :=
  failAt p ("Function not found: " ++ function ++ " (" ++
    String.intercalate ", " (args.map Value.typeName) ++ ")")

mutual

def equal : Value → Value → Bool
  | .unit, .unit => true
  | .bool a, .bool b => a == b
  | .int a, .int b => a == b
  | .unsigned a, .unsigned b => a == b
  | .float a, .float b => a == b
  | .int a, .float b => ofInt a == b
  | .float a, .int b => a == ofInt b
  | .char a, .char b => a == b
  | .text a, .text b => a == b
  | .char a, .text b => String.singleton a == b
  | .text a, .char b => a == String.singleton b
  | .array a, .array b => equalItems a b
  | .map a, .map b => equalFields a b
  | .range a b, .range c d => a == c && b == d
  | .closedRange a b, .closedRange c d => a == c && b == d
  | .foreign s a x, .foreign t b y => s == t && a == b && x == y
  | _, _ => false

def equalItems : List Value → List Value → Bool
  | [], [] => true
  | x :: xs, y :: ys => equal x y && equalItems xs ys
  | _, _ => false

def equalFields : List (String × Value) → List (String × Value) → Bool
  | [], [] => true
  | (k, x) :: xs, (l, y) :: ys => k == l && equal x y && equalFields xs ys
  | _, _ => false

end

def compareFloats? (a b : Float) : Option Ordering :=
  if a < b then some .lt else if b < a then some .gt else if a == b then some .eq else none

def order? : Value → Value → Option Ordering
  | .int a, .int b => some (compare a b)
  | .float a, .float b => compareFloats? a b
  | .int a, .float b => compareFloats? (ofInt a) b
  | .float a, .int b => compareFloats? a (ofInt b)
  | .text a, .text b => some (compare a b)
  | .char a, .char b => some (compare a.toNat b.toNat)
  | .char a, .text b => some (compare (String.singleton a) b)
  | .text a, .char b => some (compare a (String.singleton b))
  | .bool a, .bool b => some (compare a.toNat b.toNat)
  | _, _ => none

def fitted (p : Position) (what : String) (n : Int) : Outcome Value :=
  if leastInt64 ≤ n ∧ n ≤ greatestInt64 then pure (.int n) else failAt p what

def terms (a : Int) (sign : String) (b : Int) : String :=
  intText a ++ " " ++ sign ++ " " ++ intText b

def intResult (i : Infix) (a b : Int) : Outcome Value :=
  let p := i.position
  match i.operator with
  | .add => fitted p ("Addition overflow: " ++ terms a "+" b) (a + b)
  | .subtract => fitted p ("Subtraction overflow: " ++ terms a "-" b) (a - b)
  | .multiply => fitted p ("Multiplication overflow: " ++ terms a "*" b) (a * b)
  | .divide =>
    if b = 0 then failAt p ("Division by zero: " ++ terms a "/" b)
    else fitted p ("Division overflow: " ++ terms a "/" b) (a.tdiv b)
  | .remainder =>
    if b = 0 then failAt p ("Modulo division by zero: " ++ terms a "%" b)
    else if b = -1 ∧ a = leastInt64 then
      failAt p ("Modulo division by zero or overflow: " ++ terms a "%" b)
    else pure (.int (a.tmod b))
  | .power =>
    if b < 0 then failAt p ("Integer raised to a negative power: " ++ terms a "**" b)
    else if b ≤ 64 then fitted p ("Exponential overflow: " ++ terms a "**" b) (Int.pow a b.toNat)
    else if a = 0 ∨ a = 1 then pure (.int a)
    else if a = -1 then pure (.int (if b % 2 = 0 then 1 else -1))
    else failAt p ("Exponential overflow: " ++ terms a "**" b)
  | .range => pure (.range a b)
  | .closedRange => pure (.closedRange a b)
  | _ => notFound p i.spelling [.int a, .int b]

def floatResult (i : Infix) (a b : Float) : Outcome Value :=
  match i.operator with
  | .add => pure (.float (a + b))
  | .subtract => pure (.float (a - b))
  | .multiply => pure (.float (a * b))
  | .divide => pure (.float (a / b))
  | .remainder => pure (.float (remainder a b))
  | .power => pure (.float (Float.pow a b))
  | _ => notFound i.position i.spelling [.float a, .float b]

def merged (a b : List (String × Value)) : List (String × Value) :=
  let kept := a.filter fun p => !(b.any fun q => q.1 == p.1)
  (kept ++ b).mergeSort fun p q => p.1 ≤ q.1

def added? : Value → Value → Option Value
  | .array a, .array b => some (.array (a ++ b))
  | .map a, .map b => some (.map (merged a b))
  | .char a, .char b => some (.text (String.ofList [a, b]))
  | .text a, b => some (.text (a ++ b.display))
  | a, .text b => some (.text (a.display ++ b))
  | _, _ => none

def within? (a : Value) : Value → Option Bool
  | .array items => some (items.any (equal a))
  | .map fields =>
    match a with
    | .text k => some (fields.any fun p => p.1 == k)
    | _ => none
  | .text s =>
    match a with
    | .text t => some (Text.contains t.toList s.toList)
    | .char c => some (s.toList.contains c)
    | _ => none
  | .range m n =>
    match a with
    | .int k => some (m ≤ k && k < n)
    | _ => none
  | .closedRange m n =>
    match a with
    | .int k => some (m ≤ k && k ≤ n)
    | _ => none
  | _ => none

def isOrdered (op : Operator) (o : Ordering) : Bool :=
  match op with
  | .less => o == .lt
  | .atMost => o != .gt
  | .greater => o == .gt
  | .atLeast => o != .lt
  | _ => false

/-- Values of two kinds have no order, and each comparison of them is false. -/
def compared (i : Infix) (a b : Value) : Outcome Value :=
  match order? a b with
  | some o => pure (.bool (isOrdered i.operator o))
  | none =>
    if a.typeName == b.typeName && a.quantity?.isNone then notFound i.position i.spelling [a, b]
    else pure (.bool false)

def reckoned (i : Infix) (a b : Value) : Outcome Value :=
  match a, b with
  | .int m, .int n => intResult i m n
  | .float x, .float y => floatResult i x y
  | .int m, .float y => floatResult i (ofInt m) y
  | .float x, .int n => floatResult i x (ofInt n)
  | a, b =>
    match (if i.operator = .add then added? a b else none) with
    | some v => pure v
    | none => notFound i.position i.spelling [a, b]

def applied (i : Infix) (a b : Value) : Outcome Value :=
  match i.operator with
  | .equal => pure (.bool (equal a b))
  | .different => pure (.bool (!equal a b))
  | .less | .atMost | .greater | .atLeast => compared i a b
  | .within =>
    match within? a b with
    | some r => pure (.bool r)
    | none => notFound i.position "contains" [b, a]
  | _ => reckoned i a b

def applyUnary (p : Position) (op : Unary) (v : Value) : Outcome Value :=
  match op, v with
  | .negate, .int n => fitted p ("Negation overflow: -" ++ intText n) (-n)
  | .negate, .float x => pure (.float (negate x))
  | .plus, .int n => pure (.int n)
  | .plus, .float x => pure (.float x)
  | .not, .bool b => pure (.bool !b)
  | .negate, v => notFound p "-" [v]
  | .plus, v => notFound p "+" [v]
  | .not, v | .truth, v => notFound p "!" [v]

def truth (p : Position) : Value → Outcome Bool
  | .bool b => pure b
  | v => failAt p ("Data type incorrect: " ++ v.typeName ++ " (expecting bool)")

/-- The place in `length` places that an index names; a negative one counts from the end. -/
def place? (length : Nat) (n : Int) : Option Nat :=
  let k := if n < 0 then n + length else n
  if 0 ≤ k ∧ k < length then some k.toNat else none

def outOfBounds {α : Type} (p : Position) (whole unit : String) (length : Nat) (n : Int) :
    Outcome α :=
  let head := whole ++ " index " ++ intText n ++ " out of bounds: "
  let lower := String.ofList (whole.toList.map Char.toLower)
  match length with
  | 0 => failAt p (head ++ lower ++ " is empty")
  | 1 => failAt p (head ++ "only 1 " ++ unit ++ " in " ++ lower)
  | n => failAt p (head ++ "only " ++ natText n ++ " " ++ unit ++ "s in " ++ lower)

def bit (n : Int) (k : Nat) : Bool := (n % 0x10000000000000000).toNat / pow2 k % 2 == 1

def itemOf (p : Position) (v index : Value) : Outcome Value :=
  match v, index with
  | .array items, .int n =>
    match (place? items.length n).bind (items[·]?) with
    | some x => pure x
    | none => outOfBounds p "Array" "element" items.length n
  | .text s, .int n =>
    match (place? s.length n).bind (s.toList[·]?) with
    | some c => pure (.char c)
    | none => outOfBounds p "String" "character" s.length n
  | .int m, .int n =>
    match place? 64 n with
    | some k => pure (.bool (bit m k))
    | none => outOfBounds p "Bit-field" "bit" 64 n
  | .map fields, .text k => pure ((fields.lookup k).getD .unit)
  | v, i => failAt p ("Indexer unavailable: " ++ v.typeName ++ " [" ++ i.typeName ++ "]")

def lengthOf? : Value → Option Nat
  | .array items => some items.length
  | .map fields => some fields.length
  | .text s => some s.length
  | _ => none

def fieldOf (p : Position) (v : Value) (name : String) : Outcome Value :=
  match v with
  | .map fields => pure ((fields.lookup name).getD .unit)
  | v =>
    match (if name == "len" then lengthOf? v else none) with
    | some n => pure (.int n)
    | none =>
      failAt p ("Unknown property '" ++ name ++ "' - a getter is not registered for type '" ++
        v.typeName ++ "'")

def applyFunction (p : Position) (name : String) (args : List Value) : Outcome Value :=
  match name, args with
  | "len", [v] =>
    match lengthOf? v with
    | some n => pure (.int n)
    | none => notFound p name args
  | "is_empty", [v] =>
    match lengthOf? v with
    | some n => pure (.bool (n == 0))
    | none => notFound p name args
  | _, _ => notFound p name args

def textKey? : Value → Option String
  | .text s => some s
  | _ => none

def mapOf (keys values : List Value) : Value :=
  .map (((keys.filterMap textKey?).zip values).mergeSort fun p q => p.1 ≤ q.1)

mutual

def valueOf (s : Scope) : Expression → Outcome Value
  | .constant _ c =>
    pure <| match c with
      | .null => .unit
      | .bool b => .bool b
      | .int n => .int n
      | .unsigned n => .unsigned n
      | .float x => .float x
      | .char c => .char c
      | .text t => .text t
      | .bytes _ => .unit
  | .name p name =>
    match s.constants.lookup name with
    | some v => pure v
    | none => failAt p ("Variable not found: " ++ name)
  | .unary p op e => do applyUnary p op (← valueOf s e)
  | .binary i left right => do
    let a ← valueOf s left
    match i.operator with
    | .or => do
      if ← truth left.start a then pure (.bool true)
      else
        let b ← valueOf s right
        .bool <$> truth right.start b
    | .and => do
      if ← truth left.start a then
        let b ← valueOf s right
        .bool <$> truth right.start b
      else pure (.bool false)
    | .coalesce =>
      match a with
      | .unit => valueOf s right
      | a => pure a
    | _ => applied i a (← valueOf s right)
  | .choice c _ _ => failAt c.start "Unknown operator: '?'"
  | .item e index => do
    let v ← valueOf s e
    itemOf index.start v (← valueOf s index)
  | .field p e name => do fieldOf p (← valueOf s e) name
  | .call p name args => do applyFunction p name (← valuesOf s args)
  | .method p e name args => do
    let v ← valueOf s e
    applyFunction p name (v :: (← valuesOf s args))
  | .list _ items => .array <$> valuesOf s items
  | .record _ keys values => do pure (mapOf (← valuesOf s keys) (← valuesOf s values))

def valuesOf (s : Scope) : List Expression → Outcome (List Value)
  | [] => pure []
  | e :: es => do
    let v ← valueOf s e
    pure (v :: (← valuesOf s es))

end

def Scope.value (s : Scope) (code : String) : Outcome Value :=
  match expression? code with
  | some e => valueOf s e
  | none => throw "Syntax error"

def Scope.bind (s : Scope) (data : DataMap) : Scope :=
  data.foldl (fun s p => ⟨(p.1, .ofJson p.2) :: s.constants⟩) s

instance : Language Scope where
  name _ := "rhai"
  bind data s := (.ok (), s.bind data)
  evaluate code direction format s :=
    match s.value code with
    | .ok v => (shape direction format v, s)
    | .error reason => (.error (.evaluation "rhai" reason), s)

end SheetTemplate.Rhai
