import SheetTemplate.Xlsx.Cells

namespace SheetTemplate.Xlsx

open Xml

def maxColumns : Nat := 16384

def moveWord? (rows cols : Nat) (word : List Char) : Option (List Char) := do
  let c ← cellPosition? (word.map byte)
  let col := wrap32 (c.col + cols)
  if col < maxColumns then some (CellRef.toChars ⟨wrap32 (c.row + rows), col⟩) else none

def moved (rows cols : Nat) (word : List Char) : List Char := (moveWord? rows cols word).getD word

/-- Moves every word of letters followed by digits outside double quotes. `word` is the word being
read, and a word is written out when something ends it. -/
def moveFrom (rows cols : Nat) (quoted digits : Bool) (word : List Char) :
    List Char → List Char
  | [] => moved rows cols word
  | c :: rest =>
    let quoted := if c = '"' then !quoted else quoted
    if quoted then c :: moveFrom rows cols quoted digits word rest
    else if c.isAlpha then
      if digits then word ++ moveFrom rows cols quoted false [c] rest
      else moveFrom rows cols quoted false (word ++ [c]) rest
    else if c.isDigit then moveFrom rows cols quoted true (word ++ [c]) rest
    else moved rows cols word ++ c :: moveFrom rows cols quoted false [] rest

/-- The text of a shared formula in a cell some rows below and columns right of its first cell.
Characters are cut to their low bytes, which must be text again. -/
def moveFormula? (rows cols : Nat) (s : String) : Option String :=
  decode? ((moveFrom rows cols false false [] s.toList).map byte)

structure SharedFormula where
  text : String
  first : CellRef
  last : CellRef

def SharedFormula.offset? (f : SharedFormula) (c : CellRef) : Option (Nat × Nat) :=
  if f.first.row ≠ f.last.row then
    if c.col = f.first.col ∧ f.first.row ≤ c.row ∧ c.row ≤ f.last.row then
      some (c.row - f.first.row, 0)
    else none
  else if f.first.col ≠ f.last.col then
    if c.row = f.first.row ∧ f.first.col ≤ c.col ∧ c.col ≤ f.last.col then
      some (0, c.col - f.first.col)
    else none
  else none

abbrev SharedFormulas := List (Option SharedFormula)

def SharedFormulas.add (fs : SharedFormulas) (index : Nat) (f : SharedFormula) : SharedFormulas :=
  fs ++ List.replicate (index - fs.length) none ++ [some f]

def sharedFormula? (fs : SharedFormulas) (pos : CellRef) (child : Tag) (own : Option String)
    (before : Option String) : Option (Option String × SharedFormulas) :=
  let value := own <|> before
  match child.find? "t" with
  | some (some t) =>
    if plainText t ≠ "shared" then some (value, fs)
    else do
      let some si ← child.find? "si" | none
      let index ← Number.readUnsigned? Number.greatestNat64 (plainText si).toList
      match ← child.find? "ref" with
      | some r => do
        let (first, last) ← dimension? r
        match own with
        | some text => some (own, fs.add index ⟨text, first, last⟩)
        | none => some (none, fs)
      | none =>
        match (fs[index]?).join with
        | none => some (value, fs)
        | some f =>
          match f.offset? pos with
          | none => some (value, fs)
          | some (rows, cols) => (moveFormula? rows cols f.text).map fun s => (some s, fs)
  | _ => some (value, fs)

def readFormula? (pos : CellRef) :
    Nat → Option String → SharedFormulas → List Event →
      Option (Option String × SharedFormulas × List Event)
  | 0, _, _, _ => none
  | _ + 1, _, _, [] => none
  | fuel + 1, v, fs, e :: rest =>
    match e with
    | .broken => none
    | .text _ => readFormula? pos fuel v fs rest
    | .stop n => if localName n = "c" then some (v, fs, rest) else readFormula? pos fuel v fs rest
    | .start child => do
      let (own, rest) ← childFormula? child rest
      let (v, fs) ← sharedFormula? fs pos child own v
      readFormula? pos fuel v fs rest

def formulaReader : CellReader SharedFormulas String :=
  fun fs pos _ rest => do
    let (v, fs, rest) ← readFormula? pos (rest.length + 1) none fs rest
    pure (v.getD "", fs, rest)

def formulas? (events : List Event) : Option (List (CellRef × String)) := do
  let cells ← cellsOf? formulaReader [] events
  pure (withinRows (cells.filter fun (_, s) => !s.isEmpty))

end SheetTemplate.Xlsx
