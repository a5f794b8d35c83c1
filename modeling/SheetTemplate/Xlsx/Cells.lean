import SheetTemplate.Cell.Ref
import SheetTemplate.Xml.Attribute

namespace SheetTemplate.Xlsx

open Xml

def wrap32 (n : Nat) : Nat := n % 0x100000000

/-- Letters and digits of a position read from the right: the row so far, the column so far, the
place value of the next character and whether digits are still expected. -/
structure PositionState where
  row : Nat := 0
  col : Nat := 0
  weight : Nat := 1
  inRow : Bool := true

def PositionState.step (s : PositionState) (b : UInt8) : Option PositionState :=
  let c := Char.ofNat b.toNat
  if c.isDigit then
    if s.inRow then
      some { s with row := wrap32 (s.row + (c.toNat - 48) * s.weight), weight := wrap32 (s.weight * 10) }
    else none
  else if c.isAlpha then
    if s.inRow && s.row = 0 then none
    else
      let weight := if s.inRow then 1 else s.weight
      some
        { s with
          col := wrap32 (s.col + CellRef.letterValue c * weight)
          weight := wrap32 (weight * 26)
          inRow := false }
  else none

def position? (s : Bytes) : Option (Nat × Option Nat) := do
  let st ← s.reverse.foldlM PositionState.step {}
  if st.row = 0 then none
  else some (st.row - 1, if st.col = 0 then none else some (st.col - 1))

def cellPosition? (s : Bytes) : Option CellRef :=
  match position? s with
  | some (row, some col) => some ⟨row, col⟩
  | _ => none

def splitColon (s : Bytes) : List Bytes := s.splitOn (byte ':')

def dimension? (s : Bytes) : Option (CellRef × CellRef) := do
  match ← (splitColon s).mapM cellPosition? with
  | [a] => some (a, a)
  | [a, b] => some (a, b)
  | _ => none

def readText? (name : String) : List Event → Option (String × List Event)
  | [] => none
  | .broken :: _ => none
  | .text raw :: rest => do
    let s ← value? .lenient raw
    let (t, rest) ← readText? name rest
    pure (s ++ t, rest)
  | .stop n :: rest => if n = name then some ("", rest) else readText? name rest
  | .start _ :: rest => readText? name rest

def skipElement? (name : String) : Nat → List Event → Option (List Event)
  | _, [] => none
  | _, .broken :: _ => none
  | depth, .start t :: rest => skipElement? name (if t.name = name then depth + 1 else depth) rest
  | depth, .stop n :: rest =>
    if n = name then
      match depth with
      | 0 => some rest
      | depth + 1 => skipElement? name depth rest
    else skipElement? name depth rest
  | depth, .text _ :: rest => skipElement? name depth rest

/-- A string item up to the end of `closing`: its first text, or the texts of all its runs.
Phonetic hints are left out. An item without text is `none`. -/
def readString? (closing : String) :
    Nat → Option String → Bool → List Event → Option (Option String × List Event)
  | 0, _, _, _ => none
  | _ + 1, _, _, [] => none
  | fuel + 1, runs, phonetic, e :: rest =>
    match e with
    | .broken => none
    | .text _ => readString? closing fuel runs phonetic rest
    | .stop n =>
      if n = closing then some (runs, rest)
      else readString? closing fuel runs (phonetic && localName n != "rPh") rest
    | .start t =>
      match localName t.name with
      | "r" => readString? closing fuel (some (runs.getD "")) phonetic rest
      | "rPh" => readString? closing fuel runs true rest
      | "t" =>
        if phonetic then readString? closing fuel runs phonetic rest
        else do
          let (s, rest) ← readText? t.name rest
          match runs with
          | some r => readString? closing fuel (some (r ++ s)) phonetic rest
          | none => do
            let rest ← skipElement? closing 0 rest
            pure (some s, rest)
      | _ => readString? closing fuel runs phonetic rest

def sharedStrings? : Nat → List Event → Option (List String)
  | 0, _ => none
  | _ + 1, [] => none
  | fuel + 1, e :: rest =>
    match e with
    | .broken => none
    | .text _ => sharedStrings? fuel rest
    | .stop n => if localName n = "sst" then some [] else sharedStrings? fuel rest
    | .start t =>
      if localName t.name = "si" then do
        let (s?, rest) ← readString? t.name (rest.length + 1) none false rest
        let more ← sharedStrings? fuel rest
        pure (s?.toList ++ more)
      else sharedStrings? fuel rest

inductive StoredValue where
  | number (x : Float)
  | bool (b : Bool)
  | text (s : String)

def errorTexts : List String :=
  ["#DIV/0!", "#N/A", "#NAME?", "#NULL!", "#NUM!", "#REF!", "#VALUE!"]

def numberOrText (s : String) : StoredValue :=
  match Number.readFloat? s.toList with
  | some x => .number x
  | none => .text s

def typedValue? (strings : Array String) (type : Option Bytes) (s : String) :
    Option (Option StoredValue) :=
  match type.map plainText with
  | none => some (some (numberOrText s))
  | some "s" => do
    let i ← Number.readUnsigned? Number.greatestNat64 s.toList
    let t ← strings[i]?
    pure (some (.text t))
  | some "b" => some (some (.bool (s != "0")))
  | some "e" => if s ∈ errorTexts then some (some (.text s)) else none
  | some "d" => some (some (.text s))
  | some "str" => some (some (numberOrText s))
  | some "n" =>
    if s.isEmpty then some none else (Number.readFloat? s.toList).map fun x => some (.number x)
  | some _ => none

def childValue? (strings : Array String) (cell child : Tag) (rest : List Event) :
    Option (Option StoredValue × List Event) :=
  match localName child.name with
  | "is" => do
    let (s?, rest) ← readString? child.name (rest.length + 1) none false rest
    pure (s?.map .text, rest)
  | "v" => do
    let (s, rest) ← readText? child.name rest
    let type ← cell.find? "t"
    let v ← typedValue? strings type s
    pure (v, rest)
  | "f" => do pure (none, ← skipElement? child.name 0 rest)
  | _ => none

def childFormula? (child : Tag) (rest : List Event) : Option (Option String × List Event) :=
  match localName child.name with
  | "is" | "v" => do pure (none, ← skipElement? child.name 0 rest)
  | "f" => do
    let (s, rest) ← readText? child.name rest
    pure (some s, rest)
  | _ => none

abbrev CellReader (τ α : Type) := τ → CellRef → Tag → List Event → Option (α × τ × List Event)

def readTable? {τ α : Type} (reader : CellReader τ α) :
    Nat → τ → CellRef → List Event → Option (List (CellRef × α))
  | 0, _, _, _ => none
  | _ + 1, _, _, [] => none
  | fuel + 1, st, pos, e :: rest =>
    match e with
    | .broken => none
    | .text _ => readTable? reader fuel st pos rest
    | .stop n =>
      match localName n with
      | "row" => readTable? reader fuel st ⟨wrap32 (pos.row + 1), 0⟩ rest
      | "sheetData" => some []
      | _ => readTable? reader fuel st pos rest
    | .start t =>
      match localName t.name with
      | "row" =>
        match t.find? "r" with
        | none => none
        | some none => readTable? reader fuel st pos rest
        | some (some r) => do
          let (row, _) ← position? r
          readTable? reader fuel st { pos with row } rest
      | "c" => do
        let place ←
          match t.find? "r" with
          | none => none
          | some none => some pos
          | some (some r) => cellPosition? r
        let (a, st, rest) ← reader st place t rest
        let more ← readTable? reader fuel st ⟨pos.row, wrap32 (place.col + 1)⟩ rest
        pure ((place, a) :: more)
      | _ => readTable? reader fuel st pos rest

inductive TableStart where
  | table (rest : List Event)
  | noTable

def tableStart? (seen : Bool) : List Event → Option TableStart
  | [] => if seen then some .noTable else none
  | .broken :: _ => none
  | .start t :: rest =>
    match localName t.name with
    | "sheetData" => some (.table rest)
    | "dimension" =>
      match t.find? "ref" with
      | some (some r) => if (dimension? r).isSome then tableStart? seen rest else none
      | _ => none
    | _ => tableStart? true rest
  | .text _ :: rest => tableStart? seen rest
  | .stop _ :: rest => tableStart? seen rest

def cellsOf? {τ α : Type} (reader : CellReader τ α) (st : τ) (events : List Event) :
    Option (List (CellRef × α)) := do
  match ← tableStart? false events with
  | .noTable => some []
  | .table rest => readTable? reader (rest.length + 1) st ⟨0, 0⟩ rest

def readValue? (strings : Array String) (cell : Tag) :
    Nat → Option StoredValue → List Event → Option (Option StoredValue × List Event)
  | 0, _, _ => none
  | _ + 1, _, [] => none
  | fuel + 1, v, e :: rest =>
    match e with
    | .broken => none
    | .text _ => readValue? strings cell fuel v rest
    | .stop n => if localName n = "c" then some (v, rest) else readValue? strings cell fuel v rest
    | .start child => do
      let (v, rest) ← childValue? strings cell child rest
      readValue? strings cell fuel v rest

def valueReader (strings : Array String) : CellReader Unit (Option StoredValue) :=
  fun _ _ cell rest => do
    let (v, rest) ← readValue? strings cell (rest.length + 1) none rest
    pure (v, (), rest)

/-- The part of a table that is kept: rows outside those of the first and the last cell are
dropped. -/
def withinRows {α : Type} (l : List (CellRef × α)) : List (CellRef × α) :=
  match l.head?, l.getLast? with
  | some (first, _), some (last, _) => l.filter fun (c, _) => first.row ≤ c.row && c.row ≤ last.row
  | _, _ => []

def storedValues? (strings : Array String) (events : List Event) :
    Option (List (CellRef × StoredValue)) := do
  let cells ← cellsOf? (valueReader strings) () events
  pure (cells.filterMap fun (c, v?) => v?.map (c, ·))

def values? (strings : Array String) (events : List Event) : Option (List (CellRef × StoredValue)) :=
  (storedValues? strings events).map withinRows

end SheetTemplate.Xlsx
