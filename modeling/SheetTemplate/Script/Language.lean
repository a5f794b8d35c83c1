import SheetTemplate.Registry
import SheetTemplate.Script.Evaluation
import SheetTemplate.Shape

namespace SheetTemplate.Script

open Number Source

def silentThrow : String := "Exception generated by QuickJS"

def describe (thrown : Value) : StateM Realm String := do
  let isError ← match thrown with
    | .object id => do
      match (← get).objects[id]? with
      | some ⟨.error _, _⟩ => pure true
      | _ => pure false
    | _ => pure false
  let message? ← if isError then
      (do
        let m ← getField callValue thrown "message"
        some <$> toText callValue m : Run (Option String)).run
    else pure (.ok none)
  match message? with
  | .ok (some m) => pure m
  | _ =>
    match ← (toText callValue thrown).run with
    | .ok s => pure s
    | .error _ => pure silentThrow

/-- The name that a key of the data is, apart from blanks and comments around it. A pattern is none,
nor is a key with declarators of its own. -/
def declaredName? (key : String) : Option String := do
  let (w, rest) ← readName? (← skip? key.toList)
  let name := String.ofList w
  -- an equals sign has to come next
  match skip? (rest ++ ['=']) with
  | some ['='] => if isDeclarable name then some name else none
  | _ => none

def badName : String := "variable name expected"

def bindVariable (key : String) (value : Json) : Run Unit :=
  match declaredName? key with
  | none => raise "SyntaxError" badName
  | some name => do
    declareLexical name ⟨none, true⟩
    setFirst outermost name (← ofJson value) true

def bindAll : DataMap → Run Unit
  | [] => pure ()
  | (k, v) :: rest => do
    bindVariable k v
    bindAll rest

abbrev Asked := ExceptT EngineError (StateM Realm)

def asked {α : Type} (run : Run α) : Asked α :=
  ExceptT.mk do
    match ← run.run with
    | .ok v => pure (.ok v)
    | .error _ => pure (.error (.extraction silentThrow))

/-- The number as a whole number, if it is one of 32 bits. -/
def quantity (x : Float) : Quantity :=
  let n := wholePart x
  if isFinite x && code (ofInt n) == code x && isNegative x == decide (n < 0) &&
      -0x80000000 ≤ n && n < 0x80000000 then .int n
  else .float x

instance : Queryable Asked Value where
  text v := asked (toText callValue v)
  number
    | .number x => pure (some (quantity x))
    | _ => pure none
  length v := do pure ((← asked (itemsOf? v)).map Array.size)
  item v i := do
    match ← asked (itemsOf? v) with
    | none => throw (.extraction "js value is not an array")
    | some items => asked (slotValue callValue v items[i]?.join)

def evaluateCode (code : String) (direction : Direction) (format : FormatSpec) (r : Realm) :
    Except EngineError Grid × Realm :=
  let cs := code.toList
  if cs.contains '\x00' then
    let place := natText (String.ofList (cs.takeWhile (· != '\x00'))).utf8ByteSize
    (.error (.evaluation "js" ("nul byte found in provided data at position: " ++ place)), r)
  else
    match (runCode code).run.run r with
    | (.ok v, r) => (shape direction format v : Asked Grid).run.run r
    | (.error thrown, r) =>
      let (reason, r) := (describe thrown).run r
      (.error (.evaluation "js" reason), r)

def bindData (data : DataMap) (r : Realm) : Except EngineError Unit × Realm :=
  match (bindAll data).run.run r with
  | (.ok _, r) => (.ok (), r)
  | (.error thrown, r) =>
    let (reason, r) := (describe thrown).run r
    (.error (.binding "js" reason), r)

instance : Language Realm where
  name _ := "js"
  bind := bindData
  evaluate := evaluateCode

end SheetTemplate.Script
