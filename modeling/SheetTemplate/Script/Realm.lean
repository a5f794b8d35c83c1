import SheetTemplate.Script.NumberText
import SheetTemplate.Script.Syntax

namespace SheetTemplate.Script

open Number

inductive ArrayMethod where
  | concat
  | filter
  | join
  | map
  | push
  | reverse
deriving Repr, DecidableEq

inductive Builtin where
  | array
  | object
  | error (name : String)
  | symbol
  | string
  | number
  | boolean
  | defineProperty
  | arrayMethod (m : ArrayMethod)
  | toUpperCase
  | toLowerCase
  | toString
  | valueOf
deriving Repr, DecidableEq

inductive Value where
  | undefined
  | null
  | bool (b : Bool)
  | number (x : Float)
  | text (s : String)
  | symbol (id : Nat) (description : String)
  | builtin (b : Builtin)
  | object (id : Nat)

inductive Slot where
  | value (v : Value)
  | getter (f : Value)

structure Scope where
  names : List (String × Nat)
  this : Value

inductive ObjectKind where
  | plain
  | array (items : Array (Option Slot))
  | closure (f : Function) (scope : Scope)
  | error (name : String)
  | global

structure Object where
  kind : ObjectKind
  fields : List (String × Slot) := []

structure Cell where
  value : Option Value
  constant : Bool

structure Realm where
  objects : Array Object
  cells : Array Cell
  lexicals : List (String × Nat)
  symbols : Nat

def globalId : Nat := 0

def Realm.initial : Realm := ⟨#[⟨.global, []⟩], #[], [], 0⟩

abbrev Run := ExceptT Value (StateM Realm)

def newObject (o : Object) : Run Value := do
  let r ← get
  set { r with objects := r.objects.push o }
  pure (.object r.objects.size)

def newCell (c : Cell) : Run Nat := do
  let r ← get
  set { r with cells := r.cells.push c }
  pure r.cells.size

def object? (id : Nat) : Run (Option Object) := do pure (← get).objects[id]?

def setObject (id : Nat) (o : Object) : Run Unit :=
  modify fun r => { r with objects := r.objects.setIfInBounds id o }

def setCell (i : Nat) (c : Cell) : Run Unit :=
  modify fun r => { r with cells := r.cells.setIfInBounds i c }

def raise {α : Type} (name message : String) : Run α := do
  throw (← newObject ⟨.error name, [("message", .value (.text message))]⟩)

def newArray (items : List Value) : Run Value :=
  newObject ⟨.array (items.map fun v => some (.value v)).toArray, []⟩

def truth : Value → Bool
  | .undefined | .null => false
  | .bool b => b
  | .number x => !isNan x && code x != 0
  | .text s => !s.isEmpty
  | _ => true

def isNothing : Value → Bool
  | .undefined | .null => true
  | _ => false

def isPrimitive : Value → Bool
  | .builtin _ | .object _ => false
  | _ => true

def primitiveText? : Value → Option String
  | .undefined => some "undefined"
  | .null => some "null"
  | .bool b => some (if b then "true" else "false")
  | .number x => some (numberText x)
  | .text s => some s
  | _ => none

def primitiveNumber? : Value → Option Float
  | .undefined => some nan
  | .null => some (ofInt 0)
  | .bool b => some (ofInt (if b then 1 else 0))
  | .number x => some x
  | .text s => some (textNumber s)
  | _ => none

def identical : Value → Value → Bool
  | .undefined, .undefined => true
  | .null, .null => true
  | .bool a, .bool b => a == b
  | .number a, .number b => a == b
  | .text a, .text b => a == b
  | .symbol a _, .symbol b _ => a == b
  | .builtin a, .builtin b => a == b
  | .object a, .object b => a == b
  | _, _ => false

def unitCount (c : Char) : Nat := if c.toNat < 0x10000 then 1 else 2

def textLength (s : String) : Nat := s.foldl (fun n c => n + unitCount c) 0

/-- The character that unit `i` belongs to; half of one shows as a replacement character. -/
def unitAt? : List Char → Nat → Option Char
  | [], _ => none
  | c :: s, i =>
    if i < unitCount c then some (if unitCount c = 1 then c else '\ufffd')
    else unitAt? s (i - unitCount c)

def itemKey? (key : String) : Option Nat := do
  let n ← readNat? (0xFFFFFFFE) key.toList
  if natText n == key then some n else none

mutual

def ofJson : Json → Run Value
  | .null => pure .null
  | .bool b => pure (.bool b)
  | .int n => pure (.number (ofInt n))
  | .float x => pure (.number x)
  | .str s => pure (.text s)
  | .arr items => do newArray (← ofItems items)
  | .obj fields => do newObject ⟨.plain, ← ofFields fields⟩

def ofItems : List Json → Run (List Value)
  | [] => pure []
  | x :: xs => do
    let v ← ofJson x
    pure (v :: (← ofItems xs))

def ofFields : List (String × Json) → Run (List (String × Slot))
  | [] => pure []
  | (k, x) :: xs => do
    let v ← ofJson x
    pure ((k, .value v) :: (← ofFields xs))

end

end SheetTemplate.Script
