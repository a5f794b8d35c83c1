import SheetTemplate.Number.Reading
import SheetTemplate.Xml.Event

namespace SheetTemplate.Xml

/-- An attribute, or the place where the list of attributes stops making sense. -/
inductive Attribute where
  | pair (name : String) (value : Bytes)
  | broken
deriving Repr, DecidableEq

def readAttribute? (s : Bytes) : Option ((String × Bytes) × Bytes) :=
  let name := s.takeWhile fun b => b != byte '=' && !isBlank b
  match (s.drop name.length).dropWhile isBlank with
  | eq :: rest =>
    if eq ≠ byte '=' then none
    else
      match rest.dropWhile isBlank with
      | quote :: rest =>
        if quote = byte '"' || quote = byte '\'' then
          (splitAt? quote rest).map fun (value, rest) => ((plainText name, value), rest)
        else none
      | [] => none
  | [] => none

/-- The attributes in order. One that is malformed, or whose name is among those seen, ends the
list; `seen` is `none` where names may be repeated. -/
def attributesFrom : Nat → Option (List String) → Bytes → List Attribute
  | 0, _, _ => []
  | fuel + 1, seen, s =>
    match s.dropWhile isBlank with
    | [] => []
    | s =>
      match readAttribute? s with
      | none => [.broken]
      | some ((name, value), rest) =>
        if seen.any (name ∈ ·) then [.broken]
        else .pair name value :: attributesFrom fuel (seen.map (name :: ·)) rest

def Tag.attributeList (t : Tag) : List Attribute :=
  attributesFrom (t.attributes.length + 1) (some []) t.attributes

def findAttribute? (name : String) : List Attribute → Option (Option Bytes)
  | [] => some none
  | .broken :: _ => none
  | .pair n v :: rest => if n = name then some (some v) else findAttribute? name rest

def Tag.find? (t : Tag) (name : String) : Option (Option Bytes) :=
  findAttribute? name t.attributeList

def allAttributes? : List Attribute → Option (List (String × Bytes))
  | [] => some []
  | .broken :: _ => none
  | .pair n v :: rest => (allAttributes? rest).map ((n, v) :: ·)

def Tag.all? (t : Tag) : Option (List (String × Bytes)) := allAttributes? t.attributeList

def named? (name : List Char) : Option Char :=
  match String.ofList name with
  | "lt" => some '<'
  | "gt" => some '>'
  | "amp" => some '&'
  | "apos" => some '\''
  | "quot" => some '"'
  | _ => none

def codePoint? (n : Nat) : Option Char :=
  if n = 0 then none else if h : n.isValidChar then some (Char.ofNatAux n h) else none

def numbered? (d : Discipline) : List Char → Option Char
  | 'x' :: digits =>
    if d = .lenient && 6 < digits.length then none
    else do codePoint? (← Number.readHex? digits)
  | digits =>
    if d = .lenient && 7 < digits.length then none
    else if digits.isEmpty || !digits.all Char.isDigit then none
    else codePoint? (Number.digitsValue digits)

def reference? (d : Discipline) : List Char → Option Char
  | '#' :: number => numbered? d number
  | name => named? name

def unescapeFrom? (d : Discipline) : Nat → List Char → Option (List Char)
  | 0, _ => some []
  | _ + 1, [] => some []
  | fuel + 1, c :: rest =>
    if c ≠ '&' then (unescapeFrom? d fuel rest).map (c :: ·)
    else
      let name := rest.takeWhile fun c => c != ';' && c != '&'
      match rest.drop name.length with
      | ';' :: rest => do
        let c ← reference? d name
        let text ← unescapeFrom? d fuel rest
        pure (c :: text)
      | _ => none

def unescape? (d : Discipline) (s : String) : Option String :=
  (unescapeFrom? d (s.length + 1) s.toList).map String.ofList

def decode? (s : Bytes) : Option String := String.fromUTF8? ⟨s.toArray⟩

def value? (d : Discipline) (s : Bytes) : Option String := do unescape? d (← decode? s)

end SheetTemplate.Xml
