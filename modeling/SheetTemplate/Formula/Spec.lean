import SheetTemplate.Number.Decimal
import SheetTemplate.Number.Reading

namespace SheetTemplate

open Number

inductive FormatKind where
  | string
  | int
  | float
  | percent
deriving Repr, DecidableEq

/-- A kind and a precision; a negative precision stands for none. -/
structure FormatSpec where
  kind : FormatKind
  precision : Int
deriving Repr, DecidableEq

namespace FormatSpec

def defaultPrecision : Nat := 2

def maxPrecision : Nat := 30

def plain : FormatSpec := ⟨.string, -1⟩

def resolvedPrecision (f : FormatSpec) : Nat :=
  if f.precision < 0 then defaultPrecision else f.precision.toNat

/-- How many places a number is rounded to before it is stored. Percentages are stored as
fractions, so they keep two places more than they show; without places they keep none. -/
def storedDecimals? (f : FormatSpec) : Option Nat :=
  match f.kind with
  | .float => some f.resolvedPrecision
  | .percent => some (if f.resolvedPrecision = 0 then 0 else f.resolvedPrecision + 2)
  | .string | .int => none

def zeroPattern (places : Nat) : List Char :=
  if places = 0 then ['0'] else '0' :: '.' :: List.replicate places '0'

def displayFormat (f : FormatSpec) : String :=
  match f.kind with
  | .percent => String.ofList (zeroPattern f.resolvedPrecision ++ ['%'])
  | .float => String.ofList (zeroPattern f.resolvedPrecision)
  | .string | .int => "General"

def precisionOf? (digits : List Char) : Option Int :=
  if digits.isEmpty then some (-1) else (readNat? maxPrecision digits).map Int.ofNat

def realKind? : Char → Option FormatKind
  | 'f' => some .float
  | 'p' => some .percent
  | _ => none

/-- The spec that a text spells. The letter stands last and decides what may stand before it. -/
def ofChars? (s : List Char) : Option FormatSpec :=
  match s.reverse with
  | ['s'] => some plain
  | 'd' :: digits => (precisionOf? digits.reverse).map (⟨.int, ·⟩)
  | letter :: before => do
    let kind ← realKind? letter
    match before.reverse with
    | [] => some ⟨kind, -1⟩
    | '.' :: digits => if digits.isEmpty then none else (precisionOf? digits).map (⟨kind, ·⟩)
    | _ => none
  | [] => none

structure ParseError where
  text : String
deriving Repr, DecidableEq

def ParseError.message (e : ParseError) : String := "invalid format spec `" ++ e.text ++ "`"

def ofText (s : String) : Except ParseError FormatSpec :=
  match ofChars? s.toList with
  | some f => .ok f
  | none => .error ⟨s⟩

def precisionDigits (f : FormatSpec) : List Char :=
  if f.precision < 0 then [] else natDigits f.precision.toNat

def toChars (f : FormatSpec) : List Char :=
  let point := if f.precision < 0 then [] else ['.']
  match f.kind with
  | .string => ['s']
  | .int => f.precisionDigits ++ ['d']
  | .float => point ++ f.precisionDigits ++ ['f']
  | .percent => point ++ f.precisionDigits ++ ['p']

def toText (f : FormatSpec) : String := String.ofList f.toChars

instance : ToString FormatSpec := ⟨toText⟩

end FormatSpec

end SheetTemplate
