import SheetTemplate.Number.Power
import SheetTemplate.Package.Bytes

namespace SheetTemplate.Package.Inflate

structure State where
  input : ByteArray
  position : Nat
  output : ByteArray

def bit? (s : State) : Option (Nat × State) := do
  let b ← s.input[s.position / 8]?
  pure (b.toNat / Number.pow2 (s.position % 8) % 2, { s with position := s.position + 1 })

def bits? : Nat → State → Option (Nat × State)
  | 0, s => some (0, s)
  | n + 1, s => do
    let (low, s) ← bit? s
    let (high, s) ← bits? n s
    pure (low + 2 * high, s)

/-- A canonical prefix code: how many words each length has, and the symbols in order. -/
structure Code where
  counts : List Nat
  symbols : Array Nat

def maxLength : Nat := 15

def Code.ofLengths (lengths : List Nat) : Code where
  counts := (List.range maxLength).map fun l => lengths.count (l + 1)
  symbols := ((List.range maxLength).flatMap fun l =>
    lengths.zipIdx.filterMap fun (n, i) => if n = l + 1 then some i else none).toArray

def Code.fits (c : Code) : Bool := go 1 c.counts
where
  go (room : Nat) : List Nat → Bool
    | [] => true
    | n :: rest => n ≤ 2 * room && go (2 * room - n) rest

def symbolFrom? (c : Code) : List Nat → Nat → Nat → Nat → State → Option (Nat × State)
  | [], _, _, _, _ => none
  | count :: rest, word, first, index, s => do
    let (b, s) ← bit? s
    let word := word + b
    if word < first + count then
      let symbol ← c.symbols[index + (word - first)]?
      pure (symbol, s)
    else symbolFrom? c rest (2 * word) (2 * (first + count)) (index + count) s

def symbol? (c : Code) (s : State) : Option (Nat × State) := symbolFrom? c c.counts 0 0 0 s

def lengthBases : List Nat :=
  [3, 4, 5, 6, 7, 8, 9, 10, 11, 13, 15, 17, 19, 23, 27, 31, 35, 43, 51, 59, 67, 83, 99, 115, 131,
    163, 195, 227, 258]

def lengthExtras : List Nat :=
  [0, 0, 0, 0, 0, 0, 0, 0, 1, 1, 1, 1, 2, 2, 2, 2, 3, 3, 3, 3, 4, 4, 4, 4, 5, 5, 5, 5, 0]

def distanceBases : List Nat :=
  [1, 2, 3, 4, 5, 7, 9, 13, 17, 25, 33, 49, 65, 97, 129, 193, 257, 385, 513, 769, 1025, 1537, 2049,
    3073, 4097, 6145, 8193, 12289, 16385, 24577]

def distanceExtras : List Nat :=
  [0, 0, 0, 0, 1, 1, 2, 2, 3, 3, 4, 4, 5, 5, 6, 6, 7, 7, 8, 8, 9, 9, 10, 10, 11, 11, 12, 12, 13, 13]

def extended? (bases extras : List Nat) (i : Nat) (s : State) : Option (Nat × State) := do
  let base ← bases[i]?
  let extra ← extras[i]?
  let (n, s) ← bits? extra s
  pure (base + n, s)

def copyBack? (distance : Nat) : Nat → ByteArray → Option ByteArray
  | 0, out => some out
  | n + 1, out =>
    if out.size < distance then none
    else do
      let b ← out[out.size - distance]?
      copyBack? distance n (out.push b)

def codes? (literals distances : Code) : Nat → State → Option State
  | 0, _ => none
  | fuel + 1, s => do
    let (symbol, s) ← symbol? literals s
    if symbol < 256 then
      codes? literals distances fuel { s with output := s.output.push (.ofNat symbol) }
    else if symbol = 256 then pure s
    else
      let (length, s) ← extended? lengthBases lengthExtras (symbol - 257) s
      let (d, s) ← symbol? distances s
      let (distance, s) ← extended? distanceBases distanceExtras d s
      let output ← copyBack? distance length s.output
      codes? literals distances fuel { s with output }

def fixedLiterals : Code :=
  .ofLengths (List.replicate 144 8 ++ List.replicate 112 9 ++ List.replicate 24 7 ++
    List.replicate 8 8)

def fixedDistances : Code := .ofLengths (List.replicate 30 5)

def stored? (s : State) : Option State := do
  let start := (s.position + 7) / 8
  let length ← readNumber? s.input start 2
  let complement ← readNumber? s.input (start + 2) 2
  if length + complement ≠ 0xFFFF then none
  else
    let data ← slice? s.input (start + 4) length
    pure { s with position := 8 * (start + 4 + length), output := s.output ++ data }

def lengthOrder : List Nat := [16, 17, 18, 0, 8, 7, 9, 6, 10, 5, 11, 4, 12, 3, 13, 2, 14, 1, 15]

def lengths? (c : Code) : Nat → Nat → List Nat → State → Option (List Nat × State)
  | 0, _, _, _ => none
  | fuel + 1, n, done, s =>
    if n = 0 then some (done.reverse, s)
    else do
      let (symbol, s) ← symbol? c s
      if symbol < 16 then lengths? c fuel (n - 1) (symbol :: done) s
      else
        let (value, least, width) ←
          match symbol, done with
          | 16, last :: _ => some (last, 3, 2)
          | 17, _ => some (0, 3, 3)
          | 18, _ => some (0, 11, 7)
          | _, _ => none
        let (more, s) ← bits? width s
        let count := least + more
        if n < count then none
        else lengths? c fuel (n - count) (List.replicate count value ++ done) s

def lengthCode? (count : Nat) (s : State) : Option (Code × State) := do
  let (lengths, s) ← (List.range count).foldlM (fun (l, s) _ => do
    let (n, s) ← bits? 3 s
    pure (l ++ [n], s)) (([] : List Nat), s)
  let table := lengthOrder.zip lengths
  pure (.ofLengths ((List.range 19).map fun i => (table.lookup i).getD 0), s)

def transmitted? (fuel : Nat) (s : State) : Option State := do
  let (hlit, s) ← bits? 5 s
  let (hdist, s) ← bits? 5 s
  let (hclen, s) ← bits? 4 s
  if 286 < hlit + 257 ∨ 30 < hdist + 1 then none
  else
    let (code, s) ← lengthCode? (hclen + 4) s
    let (lengths, s) ← lengths? code 400 (hlit + 257 + (hdist + 1)) [] s
    let literals := Code.ofLengths (lengths.take (hlit + 257))
    let distances := Code.ofLengths (lengths.drop (hlit + 257))
    if code.fits && literals.fits && distances.fits then codes? literals distances fuel s else none

def blocks? : Nat → State → Option State
  | 0, _ => none
  | fuel + 1, s => do
    let (last, s) ← bit? s
    let (kind, s) ← bits? 2 s
    let s ←
      match kind with
      | 0 => stored? s
      | 1 => codes? fixedLiterals fixedDistances (8 * s.input.size + 1) s
      | 2 => transmitted? (8 * s.input.size + 1) s
      | _ => none
    if last = 1 then pure s else blocks? fuel s

def inflate? (b : ByteArray) : Option ByteArray :=
  (blocks? (8 * b.size + 1) ⟨b, 0, .empty⟩).map State.output

end SheetTemplate.Package.Inflate
