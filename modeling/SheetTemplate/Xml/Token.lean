namespace SheetTemplate.Xml

abbrev Bytes := List UInt8

inductive Discipline where
  | lenient
  | strict
deriving Repr, DecidableEq

inductive Token where
  | text (raw : Bytes)
  | tag (content : Bytes)
  | endTag (content : Bytes)
  | aside
  | broken
deriving Repr, DecidableEq

def byte (c : Char) : UInt8 := .ofNat c.toNat

def ofText (s : String) : Bytes := s.toList.map byte

def isBlank (b : UInt8) : Bool := b == 32 || b == 9 || b == 10 || b == 13

def splitAt? (stop : UInt8) (s : Bytes) : Option (Bytes × Bytes) :=
  match s.dropWhile (· != stop) with
  | [] => none
  | _ :: rest => some (s.takeWhile (· != stop), rest)

def splitTag? (quote : Option UInt8) : Bytes → Option (Bytes × Bytes)
  | [] => none
  | b :: rest =>
    match quote with
    | some q => (splitTag? (if b = q then none else some q) rest).map fun (t, r) => (b :: t, r)
    | none =>
      if b = byte '>' then some ([], rest)
      else
        let quote := if b = byte '"' || b = byte '\'' then some b else none
        (splitTag? quote rest).map fun (t, r) => (b :: t, r)

/-- What follows the first closing bracket that has `before`, read backwards, in front of it.
`seen` holds the bytes already passed, last first. -/
def afterClose? (before : Bytes) (seen : Bytes) : Bytes → Option Bytes
  | [] => none
  | b :: rest =>
    if b = byte '>' && before.isPrefixOf seen then some rest
    else afterClose? before (b :: seen) rest

def afterDoctype? (depth : Nat) : Bytes → Option Bytes
  | [] => none
  | b :: rest =>
    if b = byte '<' then afterDoctype? (depth + 1) rest
    else if b = byte '>' then
      match depth with
      | 0 => some rest
      | depth + 1 => afterDoctype? depth rest
    else afterDoctype? depth rest

def lowerByte (b : UInt8) : UInt8 := if 65 ≤ b && b ≤ 90 then b + 32 else b

def startsWith (word : String) (s : Bytes) : Bool :=
  (ofText word).map lowerByte == (s.take word.length).map lowerByte

def afterBang? (s : Bytes) : Option Bytes :=
  if startsWith "--" s then afterClose? (ofText "--") [] (s.drop 2)
  else if startsWith "[cdata[" s then afterClose? (ofText "]]") [] (s.drop 7)
  else if startsWith "doctype" s then afterDoctype? 0 (s.drop 7)
  else none

def afterInstruction? (d : Discipline) (s : Bytes) : Option Bytes :=
  match d with
  | .strict => afterClose? [byte '?'] [] s
  | .lenient =>
    let (content, rest) := (splitAt? (byte '>') s).getD (s, [])
    if content.getLast? = some (byte '?') then some rest else none

def cutOff (d : Discipline) (whole : Token) : Token × Bytes :=
  match d with
  | .lenient => (whole, [])
  | .strict => (.broken, [])

def markup (d : Discipline) (s : Bytes) : Token × Bytes :=
  match s with
  | [] => if d = .strict then (.broken, []) else (.aside, [])
  | b :: rest =>
    if b = byte '!' then
      match afterBang? rest with
      | some r => (.aside, r)
      | none => (.broken, [])
    else if b = byte '?' then
      match afterInstruction? d rest with
      | some r => (.aside, r)
      | none => (.broken, [])
    else if b = byte '/' then
      match splitAt? (byte '>') rest with
      | some (content, r) => (.endTag content, r)
      | none => cutOff d (.endTag rest)
    else
      match splitTag? none s with
      | some (content, r) => (.tag content, r)
      | none => cutOff d (.tag s)

def tokensFrom (d : Discipline) : Nat → Bytes → List Token
  | 0, _ => []
  | _ + 1, [] => []
  | fuel + 1, b :: rest =>
    if b = byte '<' then
      match markup d rest with
      | (.broken, _) => [.broken]
      | (t, r) => t :: tokensFrom d fuel r
    else
      .text ((b :: rest).takeWhile (· != byte '<')) ::
        tokensFrom d fuel ((b :: rest).dropWhile (· != byte '<'))

def tokens (d : Discipline) (s : Bytes) : List Token := tokensFrom d s.length s

end SheetTemplate.Xml
