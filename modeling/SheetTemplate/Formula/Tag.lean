import SheetTemplate.Error
import SheetTemplate.Text.Lowercase
import SheetTemplate.Text.Word

namespace SheetTemplate

/-- The language that code names, in lower case, and the code after the tag. -/
structure TaggedCode where
  tag : String
  body : String
deriving Repr, DecidableEq

namespace TaggedCode

def split? (code : List Char) : Option (List Char × List Char) :=
  match code with
  | '[' :: rest =>
    let name := rest.takeWhile Text.isWord
    match rest.dropWhile Text.isWord with
    | ']' :: body => if name.isEmpty then none else some (name, body)
    | _ => none
  | _ => none

def ofText (code : String) : Except EngineError TaggedCode :=
  match split? code.toList with
  | some (name, body) => .ok ⟨Text.lower (String.ofList name), String.ofList body⟩
  | none => .error .wrongCodeFormat

end TaggedCode

end SheetTemplate
