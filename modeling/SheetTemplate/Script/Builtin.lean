import SheetTemplate.Script.Property
import SheetTemplate.Text.Lowercase
import SheetTemplate.Text.Uppercase

namespace SheetTemplate.Script

open Number

section

variable (call : Caller)

def itemsOf? (v : Value) : Run (Option (Array (Option Slot))) :=
  match v with
  | .object id => do
    match ← object? id with
    | some ⟨.array items, _⟩ => pure (some items)
    | _ => pure none
  | _ => pure none

def slotValue (v : Value) : Option Slot → Run Value
  | none => pure .undefined
  | some (.value x) => pure x
  | some (.getter f) => call f v []

def itemValues (v : Value) (items : Array (Option Slot)) : Run (List Value) :=
  items.toList.mapM (slotValue call v)

def joined (separator : String) (v : Value) (items : Array (Option Slot)) : Run String := do
  let texts ← items.toList.mapM fun s => do
    let x ← slotValue call v s
    if isNothing x then pure "" else toText call x
  pure (String.intercalate separator texts)

def objectText (v : Value) : Run String := do
  match v with
  | .object id =>
    match ← object? id with
    | some ⟨.array items, _⟩ => joined call "," v items
    | some ⟨.closure ⟨_, _, _, _, _, source⟩ _, _⟩ => pure source
    | some ⟨.error _, _⟩ => do
      let name ← getField call v "name" >>= toText call
      let message ← getField call v "message" >>= toText call
      pure (if message.isEmpty then name else if name.isEmpty then message
        else name ++ ": " ++ message)
    | some ⟨.global, _⟩ => pure "[object global]"
    | _ => pure "[object Object]"
  | .builtin _ => pure "function () \x7b\n    [native code]\n\x7d"
  | .symbol _ description => pure ("Symbol(" ++ description ++ ")")
  | v => toText call v

def arrayOf (args : List Value) : Run Value :=
  match args with
  | [.number x] =>
    match lengthOf? x with
    | some n => newObject ⟨.array (.replicate n none), []⟩
    | none => raise "RangeError" "invalid array length"
  | args => newArray args

def first (args : List Value) : Value := args.headD .undefined

def second (args : List Value) : Value := (args.drop 1).headD .undefined

def errorOf (name : String) (args : List Value) : Run Value := do
  match first args with
  | .undefined => newObject ⟨.error name, []⟩
  | v => newObject ⟨.error name, [("message", .value (.text (← toText call v)))]⟩

def defineProperty (target : Value) (key : String) (descriptor : Value) : Run Value := do
  match target, descriptor with
  | .object id, .object _ =>
    let getter ← getField call descriptor "get"
    let slot ← match getter with
      | .undefined => do pure (Slot.value (← getField call descriptor "value"))
      | f => pure (.getter f)
    match ← object? id with
    | some o => setObject id (o.withSlot key slot)
    | none => pure ()
    pure target
  | _, _ => raise "TypeError" "not an object"

def arrayMethod (m : ArrayMethod) (this : Value) (items : Array (Option Slot))
    (args : List Value) : Run Value := do
  let f := first args
  match m with
  | .join => do
    let separator ← match f with
      | .undefined => pure ","
      | v => toText call v
    .text <$> joined call separator this items
  | .map => do
    let results ← items.toList.zipIdx.mapM fun (s, i) =>
      match s with
      | none => pure none
      | some s => do
        let x ← slotValue call this (some s)
        pure (some (.value (← call f .undefined [x, .number (ofInt i), this])))
    newObject ⟨.array results.toArray, []⟩
  | .filter => do
    let kept ← items.toList.zipIdx.filterMapM fun (s, i) =>
      match s with
      | none => pure none
      | some s => do
        let x ← slotValue call this (some s)
        let keep ← call f .undefined [x, .number (ofInt i), this]
        pure (if truth keep then some x else none)
    newArray kept
  | .concat => do
    let parts ← args.mapM fun v => do
      match ← itemsOf? v with
      | some more => pure more
      | none => pure #[some (.value v)]
    newObject ⟨.array (parts.foldl (· ++ ·) items), []⟩
  | .push => do
    let all := items ++ (args.map fun v => some (Slot.value v)).toArray
    replaceItems all
    pure (.number (ofInt all.size))
  | .reverse => do
    replaceItems items.reverse
    pure this
where
  replaceItems (items : Array (Option Slot)) : Run Unit :=
    match this with
    | .object id => do
      match ← object? id with
      | some o => setObject id { o with kind := .array items }
      | none => pure ()
    | _ => pure ()

def callBuiltin (b : Builtin) (this : Value) (args : List Value) : Run Value := do
  match b with
  | .array => arrayOf args
  | .object =>
    match first args with
    | .undefined | .null => newObject ⟨.plain, []⟩
    | v => pure v
  | .error name => errorOf call name args
  | .symbol => do
    let description ← match first args with
      | .undefined => pure ""
      | v => toText call v
    let r ← get
    set { r with symbols := r.symbols + 1 }
    pure (.symbol r.symbols description)
  | .string =>
    match args with
    | [] => pure (.text "")
    | .symbol id description :: _ => .text <$> objectText call (.symbol id description)
    | v :: _ => .text <$> toText call v
  | .number =>
    match args with
    | [] => pure (.number (ofInt 0))
    | v :: _ => .number <$> toNumber call v
  | .boolean => pure (.bool (truth (first args)))
  | .defineProperty => do
    let key ← toKey call (second args)
    defineProperty call (first args) key ((args.drop 2).headD .undefined)
  | .arrayMethod m =>
    match ← itemsOf? this with
    | some items => arrayMethod call m this items args
    | none => raise "TypeError" "not an array"
  | .toUpperCase => do pure (.text (Text.upper (← toText call this)))
  | .toLowerCase => do pure (.text (Text.lower (← toText call this)))
  | .toString => .text <$> objectText call this
  | .valueOf => pure this

def constructBuiltin (b : Builtin) (args : List Value) : Run Value :=
  match b with
  | .array => arrayOf args
  | .object => callBuiltin call .object .undefined args
  | .error name => errorOf call name args
  | _ => raise "TypeError" "not a constructor"

end

end SheetTemplate.Script
