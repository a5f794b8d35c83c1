import SheetTemplate.Xml.Token

namespace SheetTemplate.Xml

def plainText (s : Bytes) : String := String.ofList (s.map fun b => Char.ofNat b.toNat)

structure Tag where
  name : String
  attributes : Bytes
deriving Repr, DecidableEq

inductive Event where
  | start (tag : Tag)
  | stop (name : String)
  | text (raw : Bytes)
  | broken
deriving Repr, DecidableEq

def localName (name : String) : String :=
  match name.toList.dropWhile (· != ':') with
  | [] => name
  | _ :: rest => String.ofList rest

def Tag.ofContent (content : Bytes) : Tag :=
  ⟨plainText (content.takeWhile (!isBlank ·)), content.dropWhile (!isBlank ·)⟩

def dropTrailingBlanks (s : Bytes) : Bytes := (s.reverse.dropWhile isBlank).reverse

def Token.events : Token → List Event
  | .text raw => [.text raw]
  | .tag content =>
    if content.getLast? = some (byte '/') then
      let tag := Tag.ofContent content.dropLast
      [.start tag, .stop tag.name]
    else [.start (.ofContent content)]
  | .endTag content => [.stop (plainText (dropTrailingBlanks content))]
  | .aside => []
  | .broken => [.broken]

def checkNesting : List String → List Event → List Event
  | _, [] => []
  | opened, .start tag :: rest => .start tag :: checkNesting (tag.name :: opened) rest
  | opened, .stop name :: rest =>
    match opened with
    | last :: opened => if last = name then .stop name :: checkNesting opened rest else [.broken]
    | [] => [.broken]
  | opened, .text raw :: rest => .text raw :: checkNesting opened rest
  | _, .broken :: _ => [.broken]

def lenientEvents (s : Bytes) : List Event := (tokens .lenient s).flatMap Token.events

def strictEvents (s : Bytes) : List Event :=
  checkNesting [] ((tokens .strict s).flatMap Token.events)

end SheetTemplate.Xml
