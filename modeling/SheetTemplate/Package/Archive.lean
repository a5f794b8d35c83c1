import SheetTemplate.Package.Inflate

namespace SheetTemplate.Package

structure Entry where
  name : String
  method : Nat
  crc : Nat
  size : Nat
  data : ByteArray

inductive PartError where
  | unsupported (method : Nat)
  | corrupt
deriving Repr, DecidableEq

def Entry.ofContents (name : String) (contents : ByteArray) : Entry :=
  ⟨name, 0, crc32 contents, contents.size, contents⟩

def Entry.contents (e : Entry) : Except PartError ByteArray :=
  let checked (b : ByteArray) := if crc32 b = e.crc then .ok b else .error .corrupt
  match e.method with
  | 0 => checked e.data
  | 8 =>
    match Inflate.inflate? e.data with
    | some b => checked b
    | none => .error .corrupt
  | n => .error (.unsupported n)

def headSignature : Nat := 0x04034B50

def directorySignature : Nat := 0x02014B50

def endSignature : Nat := 0x06054B50

def utf8Flag : Nat := 0x800

def Entry.sharedFields (e : Entry) (method : Nat) : List UInt8 :=
  littleEndian 2 20 ++ littleEndian 2 utf8Flag ++ littleEndian 2 method ++ littleEndian 4 0x00210000 ++
    littleEndian 4 e.crc ++ littleEndian 4 e.data.size ++ littleEndian 4 e.size ++
    littleEndian 2 e.name.utf8ByteSize ++ littleEndian 2 0

def Entry.localBytes (e : Entry) : ByteArray :=
  ofList (littleEndian 4 headSignature ++ e.sharedFields 0) ++ e.name.toUTF8 ++ e.data

def Entry.directoryBytes (e : Entry) (offset : Nat) : ByteArray :=
  ofList (littleEndian 4 directorySignature ++ littleEndian 2 20 ++ e.sharedFields e.method ++
    littleEndian 2 0 ++ littleEndian 2 0 ++ littleEndian 2 0 ++ littleEndian 4 0 ++
    littleEndian 4 offset) ++ e.name.toUTF8

def bodyBytes (entries : List Entry) : ByteArray × ByteArray :=
  entries.foldl (fun (parts, directory) e =>
    (parts ++ e.localBytes, directory ++ e.directoryBytes parts.size)) (.empty, .empty)

def write (entries : List Entry) : ByteArray :=
  let (parts, directory) := bodyBytes entries
  parts ++ directory ++
    ofList (littleEndian 4 endSignature ++ littleEndian 2 0 ++ littleEndian 2 0 ++
      littleEndian 2 entries.length ++ littleEndian 2 entries.length ++
      littleEndian 4 directory.size ++ littleEndian 4 parts.size ++ littleEndian 2 0)

def findEnd? (b : ByteArray) : Nat → Option Nat
  | 0 => if readNumber? b 0 4 = some endSignature then some 0 else none
  | n + 1 => if readNumber? b (n + 1) 4 = some endSignature then some (n + 1) else findEnd? b n

def localData? (b : ByteArray) (offset size : Nat) : Option ByteArray := do
  let signature ← readNumber? b offset 4
  if signature ≠ headSignature then none
  else
    let nameSize ← readNumber? b (offset + 26) 2
    let extraSize ← readNumber? b (offset + 28) 2
    slice? b (offset + 30 + nameSize + extraSize) size

/-- Reads `n` directory entries from `pos` on. A method that stands for encryption makes the whole
package unreadable. -/
def readDirectory? (b : ByteArray) : Nat → Nat → Option (List Entry)
  | 0, _ => some []
  | n + 1, pos => do
    let signature ← readNumber? b pos 4
    let method ← readNumber? b (pos + 10) 2
    if signature ≠ directorySignature ∨ method = 99 then none
    else
      let crc ← readNumber? b (pos + 16) 4
      let packed ← readNumber? b (pos + 20) 4
      let size ← readNumber? b (pos + 24) 4
      let nameSize ← readNumber? b (pos + 28) 2
      let extraSize ← readNumber? b (pos + 30) 2
      let commentSize ← readNumber? b (pos + 32) 2
      let offset ← readNumber? b (pos + 42) 4
      let nameBytes ← slice? b (pos + 46) nameSize
      let name ← String.fromUTF8? nameBytes
      let data ← localData? b offset packed
      let rest ← readDirectory? b n (pos + 46 + nameSize + extraSize + commentSize)
      pure (⟨name, method, crc, size, data⟩ :: rest)

def read? (b : ByteArray) : Option (List Entry) := do
  let directoryEnd ← findEnd? b (b.size - 22)
  let count ← readNumber? b (directoryEnd + 10) 2
  let start ← readNumber? b (directoryEnd + 16) 4
  if b.size < 22 then none else readDirectory? b count start

end SheetTemplate.Package
