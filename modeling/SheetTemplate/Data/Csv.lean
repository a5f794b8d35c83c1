import SheetTemplate.Data.Json

namespace SheetTemplate.Csv

inductive Position where
  | recordStart
  | fieldStart
  | field
  | quoted
  | afterQuote
deriving Repr, DecidableEq

def comma : UInt8 := 44

def quote : UInt8 := 34

def isLineEnd (b : UInt8) : Bool := b == 10 || b == 13

/-- The records of the remaining bytes. `field` holds the bytes of the field being read and
`fields` the fields before it, both last first. -/
def recordsFrom (pos : Position) (field : List UInt8) (fields : List (List UInt8)) :
    List UInt8 → List (List (List UInt8))
  | [] => if pos = .recordStart then [] else [(field.reverse :: fields).reverse]
  | b :: rest =>
    if pos = .quoted then
      if b = quote then recordsFrom .afterQuote field fields rest
      else recordsFrom .quoted (b :: field) fields rest
    else if b = quote ∧ pos = .afterQuote then recordsFrom .quoted (b :: field) fields rest
    else if b = quote ∧ pos ≠ .field then recordsFrom .quoted field fields rest
    else if b = comma then recordsFrom .fieldStart [] (field.reverse :: fields) rest
    else if isLineEnd b then
      if pos = .recordStart then recordsFrom .recordStart [] [] rest
      else (field.reverse :: fields).reverse :: recordsFrom .recordStart [] [] rest
    else recordsFrom .field (b :: field) fields rest

def byteOrderMark : List UInt8 := [0xEF, 0xBB, 0xBF]

def dropByteOrderMark (s : List UInt8) : List UInt8 :=
  if byteOrderMark.isPrefixOf s then s.drop 3 else s

def decodeField? (field : List UInt8) : Option String := String.fromUTF8? ⟨field.toArray⟩

def records? (s : List UInt8) : Option (List (List String)) :=
  (recordsFrom .recordStart [] [] (dropByteOrderMark s)).mapM (·.mapM decodeField?)

def toData (records : List (List String)) : Json := .arr (records.map fun r => .arr (r.map .str))

end SheetTemplate.Csv
