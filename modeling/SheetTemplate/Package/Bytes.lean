namespace SheetTemplate.Package

def littleEndian : Nat → Nat → List UInt8
  | 0, _ => []
  | width + 1, n => UInt8.ofNat n :: littleEndian width (n / 256)

def readNumber? (b : ByteArray) (start : Nat) : Nat → Option Nat
  | 0 => some 0
  | width + 1 => do
    let low ← b[start]?
    let high ← readNumber? b (start + 1) width
    pure (low.toNat + 256 * high)

def ofList (l : List UInt8) : ByteArray := ⟨l.toArray⟩

def toList (b : ByteArray) : List UInt8 := b.data.toList

def slice? (b : ByteArray) (start length : Nat) : Option ByteArray :=
  if start + length ≤ b.size then some (b.extract start (start + length)) else none

def crcStep (c : Nat) : Nat := if c % 2 = 1 then c / 2 ^^^ 0xEDB88320 else c / 2

def crcByte (c : Nat) (b : UInt8) : Nat :=
  Nat.repeat crcStep 8 (c ^^^ b.toNat)

def crc32 (b : ByteArray) : Nat := b.data.foldl crcByte 0xFFFFFFFF ^^^ 0xFFFFFFFF

end SheetTemplate.Package
