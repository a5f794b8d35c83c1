import SheetTemplate.Error
import SheetTemplate.Text.Blank
import SheetTemplate.Text.Lowercase
import SheetTemplate.Xml.Attribute

namespace SheetTemplate.Xlsx

open Xml

abbrev Fields := List (String × String)

namespace Fields

def get? (f : Fields) (name : String) : Option String := f.reverse.lookup name

def flag (f : Fields) (name : String) (absent : Bool) : Bool :=
  match f.get? name with
  | some s =>
    let s := Text.trim s.toList
    s == ['1'] || Text.equalsIgnoringCase (String.ofList s) "true"
  | none => absent

def index (f : Fields) (name : String) : Nat :=
  (f.get? name).bind (Number.readUnsigned? Number.greatestNat64 ·.toList) |>.getD 0

def ofAttributes : List Attribute → Except SheetError Fields
  | [] => .ok []
  | .broken :: _ => .error (.xmlAttribute "malformed or repeated attribute")
  | .pair name raw :: rest =>
    match value? .strict raw with
    | none => .error (.xml "malformed attribute value")
    | some v => do
      let fields ← ofAttributes rest
      pure ((localName name, v) :: fields)

def ofTag (t : Tag) : Except SheetError Fields := ofAttributes t.attributeList

def pairs (element first second : String) : List Event → Except SheetError (List (String × String))
  | [] => .ok []
  | .broken :: _ => .error (.xml "malformed markup")
  | .start t :: rest =>
    if localName t.name = element then do
      let f ← ofTag t
      let more ← pairs element first second rest
      match f.get? first, f.get? second with
      | some a, some b => pure ((a, b) :: more)
      | _, _ => pure more
    else pairs element first second rest
  | .stop _ :: rest => pairs element first second rest
  | .text _ :: rest => pairs element first second rest

end Fields

end SheetTemplate.Xlsx
