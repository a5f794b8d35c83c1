import SheetTemplate.Script.Realm

namespace SheetTemplate.Script

open Number

abbrev Caller := Value → Value → List Value → Run Value

def arrayMethods : List (String × ArrayMethod) :=
  [("concat", .concat), ("filter", .filter), ("join", .join), ("map", .map), ("push", .push),
   ("reverse", .reverse)]

def commonFields : List (String × Value) :=
  [("toString", .builtin .toString), ("valueOf", .builtin .valueOf)]

def textFields : List (String × Value) :=
  [("toUpperCase", .builtin .toUpperCase), ("toLowerCase", .builtin .toLowerCase)] ++ commonFields

def globalValues : List (String × Value) :=
  [("undefined", .undefined), ("NaN", .number nan), ("Infinity", .number (infinity false)),
   ("globalThis", .object globalId), ("Array", .builtin .array), ("Object", .builtin .object),
   ("Symbol", .builtin .symbol), ("String", .builtin .string), ("Number", .builtin .number),
   ("Boolean", .builtin .boolean)] ++
  ["Error", "TypeError", "RangeError", "ReferenceError", "SyntaxError"].map
    fun n => (n, .builtin (.error n))

/-- Of those, the ones that nothing else can be declared under. -/
def fixedNames : List String := ["undefined", "NaN", "Infinity"]

def ObjectKind.inherited (k : ObjectKind) : List (String × Value) :=
  match k with
  | .array _ => arrayMethods.map (fun (n, m) => (n, .builtin (.arrayMethod m))) ++ commonFields
  | .error name => [("name", .text name), ("message", .text "")] ++ commonFields
  | .global => globalValues ++ commonFields
  | _ => commonFields

def Builtin.fields : Builtin → List (String × Value)
  | .object => ("defineProperty", .builtin .defineProperty) :: commonFields
  | _ => commonFields

def Object.slot? (o : Object) (key : String) : Option Slot :=
  match o.kind with
  | .array items =>
    if key == "length" then some (.value (.number (ofInt items.size)))
    else
      match itemKey? key with
      | some i => items[i]?.join
      | none => o.fields.lookup key
  | _ => o.fields.lookup key

def setField (key : String) (s : Slot) : List (String × Slot) → List (String × Slot)
  | [] => [(key, s)]
  | (k, t) :: rest => if k == key then (key, s) :: rest else (k, t) :: setField key s rest

def setItem (items : Array (Option Slot)) (i : Nat) (s : Slot) : Array (Option Slot) :=
  if i < items.size then items.setIfInBounds i (some s)
  else (items ++ Array.replicate (i - items.size) none).push (some s)

def resized (items : Array (Option Slot)) (n : Nat) : Array (Option Slot) :=
  items.take n ++ Array.replicate (n - items.size) none

def lengthOf? (x : Float) : Option Nat :=
  let n := wholePart x
  if isFinite x && ofInt n == x && 0 ≤ n && n < 0x100000000 then some n.toNat else none

def Object.withSlot (o : Object) (key : String) (s : Slot) : Object :=
  match o.kind, itemKey? key with
  | .array items, some i => { o with kind := .array (setItem items i s) }
  | _, _ => { o with fields := setField key s o.fields }

def keyText : Value → String
  | .symbol id description => "Symbol(" ++ description ++ ")@" ++ natText id
  | v => (primitiveText? v).getD ""

def nothingText (v : Value) : String := (primitiveText? v).getD ""

section

variable (call : Caller)

def getField (v : Value) (key : String) : Run Value :=
  match v with
  | .undefined | .null =>
    raise "TypeError" ("cannot read property '" ++ key ++ "' of " ++ nothingText v)
  | .text s =>
    if key == "length" then pure (.number (ofInt (textLength s)))
    else
      match (itemKey? key).bind (unitAt? s.toList) with
      | some c => pure (.text (String.singleton c))
      | none => pure ((textFields.lookup key).getD .undefined)
  | .builtin b => pure ((b.fields.lookup key).getD .undefined)
  | .object id => do
    match ← object? id with
    | none => pure .undefined
    | some o =>
      match o.slot? key with
      | some (.value x) => pure x
      | some (.getter f) => call f v []
      | none => pure ((o.kind.inherited.lookup key).getD .undefined)
  | _ => pure ((commonFields.lookup key).getD .undefined)

def putField (v : Value) (key : String) (x : Value) : Run Unit :=
  match v with
  | .undefined | .null =>
    raise "TypeError" ("cannot set property '" ++ key ++ "' of " ++ nothingText v)
  | .object id => do
    match ← object? id with
    | none => pure ()
    | some o =>
      match o.kind, key, o.slot? key with
      | .array items, "length", _ =>
        match (primitiveNumber? x).bind lengthOf? with
        | some n => setObject id { o with kind := .array (resized items n) }
        | none => raise "RangeError" "invalid array length"
      | _, _, some (.getter _) => raise "TypeError" "no setter for property"
      | _, _, _ => setObject id (o.withSlot key (.value x))
  | _ => raise "TypeError" "not an object"

def askMethods (v : Value) : List String → Run Value
  | [] => raise "TypeError" "toPrimitive"
  | m :: ms => do
    let f ← getField call v m
    let callable ← match f with
      | .builtin _ => pure true
      | .object id => do
        match ← object? id with
        | some ⟨.closure .., _⟩ => pure true
        | _ => pure false
      | _ => pure false
    if callable then
      let r ← call f v []
      if isPrimitive r then pure r else askMethods v ms
    else askMethods v ms

def toPrimitive (asText : Bool) (v : Value) : Run Value :=
  if isPrimitive v then pure v
  else askMethods call v (if asText then ["toString", "valueOf"] else ["valueOf", "toString"])

def toText (v : Value) : Run String := do
  match primitiveText? (← toPrimitive call true v) with
  | some s => pure s
  | none => raise "TypeError" "cannot convert symbol to string"

def toNumber (v : Value) : Run Float := do
  match primitiveNumber? (← toPrimitive call false v) with
  | some x => pure x
  | none => raise "TypeError" "cannot convert symbol to number"

def toKey (v : Value) : Run String := do pure (keyText (← toPrimitive call true v))

end

end SheetTemplate.Script
