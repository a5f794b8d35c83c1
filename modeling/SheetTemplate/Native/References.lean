import SheetTemplate.Cell.Ref

namespace SheetTemplate

/-- The spelling of a reference: letters and digits, either perhaps fixed by a dollar sign. -/
structure RefToken where
  colFixed : Bool
  letters : List Char
  rowFixed : Bool
  digits : List Char
deriving Repr, DecidableEq

namespace RefToken

def dollar (fixed : Bool) : List Char := if fixed then ['$'] else []

def toChars (t : RefToken) : List Char :=
  dollar t.colFixed ++ t.letters ++ dollar t.rowFixed ++ t.digits

def cell? (t : RefToken) : Option CellRef := CellRef.ofChars? (t.letters ++ t.digits)

def splitDollar : List Char → Bool × List Char
  | '$' :: s => (true, s)
  | s => (false, s)

/-- Reads a token at the front: one to three letters that no letter follows, then digits. -/
def split? (s : List Char) : Option (RefToken × List Char) :=
  let (colFixed, s₁) := splitDollar s
  let letters := s₁.takeWhile Char.isAlpha
  let (rowFixed, s₂) := splitDollar (s₁.dropWhile Char.isAlpha)
  let digits := s₂.takeWhile Char.isDigit
  if letters.isEmpty || 3 < letters.length || digits.isEmpty then none
  else some (⟨colFixed, letters, rowFixed, digits⟩, s₂.dropWhile Char.isDigit)

theorem dollar_append_splitDollar (s : List Char) :
    dollar (splitDollar s).1 ++ (splitDollar s).2 = s := by
  unfold splitDollar
  split <;> simp [dollar]

/-- A token is read off the front and nothing is lost. -/
theorem toChars_append_of_split? {s rest : List Char} {t : RefToken}
    (h : split? s = some (t, rest)) : t.toChars ++ rest = s := by
  simp only [split?] at h
  split at h
  · cases h
  · cases h
    simp only [toChars, List.append_assoc, List.takeWhile_append_dropWhile,
      dollar_append_splitDollar]

theorem letters_ne_nil_of_split? {s rest : List Char} {t : RefToken}
    (h : split? s = some (t, rest)) : t.letters ≠ [] := by
  simp only [split?] at h
  split at h
  · cases h
  · rename_i hn
    cases h
    simp only [Bool.or_eq_true, not_or, List.isEmpty_iff] at hn
    exact hn.1.1

theorem length_lt_of_split? {s rest : List Char} {t : RefToken}
    (h : split? s = some (t, rest)) : rest.length < s.length := by
  have hs : t.toChars.length + rest.length = s.length := by
    rw [← List.length_append, toChars_append_of_split? h]
  have hl := List.length_pos_iff.2 (letters_ne_nil_of_split? h)
  have ht : t.letters.length ≤ t.toChars.length := by
    simp only [toChars, List.length_append]
    omega
  omega

def shift (axis : Axis) (start count : Nat) (t : RefToken) (c : CellRef) : RefToken :=
  if axis.coordinate c < start then t
  else
    let c' := c.shift axis start count
    { t with letters := CellRef.columnLetters c'.col, digits := Number.natDigits (c'.row + 1) }

end RefToken

inductive Piece where
  | reference (token : RefToken) (cell : CellRef)
  | other (text : List Char)
deriving Repr, DecidableEq

namespace Piece

def toChars : Piece → List Char
  | reference t _ => t.toChars
  | other s => s

def shift (axis : Axis) (start count : Nat) : Piece → Piece
  | reference t c => reference (t.shift axis start count c) (c.shift axis start count)
  | other s => other s

/-- Characters that make a reference after them a part of a longer word or qualified name. -/
def gluesBefore (c : Char) : Bool := c.isAlphanum || c == '!' || c == '.' || c == '_' || c == '$'

def gluesAfter (c : Char) : Bool := c.isAlphanum || c == '_' || c == '('

def ofToken (before after : Option Char) (t : RefToken) : Piece :=
  if before.any gluesBefore || after.any gluesAfter then other t.toChars
  else
    match t.cell? with
    | some c => reference t c
    | none => other t.toChars

/-- The pieces of a text. `quoted` tells whether a string literal is open, and `before` is the
character before the text, unless that is a quote. -/
def scan (quoted : Bool) (before : Option Char) : List Char → List Piece
  | [] => []
  | c :: rest =>
    if c = '"' then other [c] :: scan (!quoted) none rest
    else if quoted then other [c] :: scan true none rest
    else
      match _hs : RefToken.split? (c :: rest) with
      | none => other [c] :: scan false (some c) rest
      | some (t, after) => ofToken before after.head? t :: scan false t.digits.getLast? after
termination_by s => s.length
decreasing_by
  · simp
  · simp
  · simp
  have := RefToken.length_lt_of_split? _hs
  simp only [List.length_cons] at this
  omega

def ofText (s : List Char) : List Piece := scan false none s

def text (ps : List Piece) : List Char := ps.flatMap toChars

end Piece

/-- The text of a native formula after `count` rows or columns are inserted before `start`. -/
def shiftReferences (axis : Axis) (start count : Nat) (formula : String) : String :=
  String.ofList (Piece.text ((Piece.ofText formula.toList).map (Piece.shift axis start count)))

end SheetTemplate
