import SheetTemplate.Number.Power

namespace SheetTemplate.Number

structure Binary where
  mantissa : Nat
  exponent : Int
deriving Repr, DecidableEq

def leadingBit : Nat := 0x10000000000000

def infiniteCode : Nat := 0x7FF0000000000000

def signBit : Nat := 0x8000000000000000

def isNegative (x : Float) : Bool := signBit ≤ x.toBits.toNat

def code (x : Float) : Nat := x.toBits.toNat % signBit

def isFinite (x : Float) : Bool := code x < infiniteCode

def isNan (x : Float) : Bool := infiniteCode < code x

def Binary.ofCode (n : Nat) : Binary :=
  if n < leadingBit then ⟨n, -1074⟩
  else ⟨leadingBit + n % leadingBit, (n / leadingBit : Nat) - 1075⟩

def magnitude (x : Float) : Binary := .ofCode (code x)

def ofCode (negative : Bool) (n : Nat) : Float :=
  .ofBits (.ofNat (if negative then signBit + n else n))

def infinity (negative : Bool) : Float := ofCode negative infiniteCode

def nan : Float := ofCode false (infiniteCode + leadingBit / 2)

def negate (x : Float) : Float := ofCode (!isNegative x) (code x)

def roundDiv (num den : Nat) : Nat :=
  let q := num / den
  let r := num % den
  if 2 * r < den then q else if den < 2 * r then q + 1 else q + q % 2

theorem roundDiv_near (num den : Nat) (h : 0 < den) :
    2 * (roundDiv num den * den) ≤ 2 * num + den ∧ 2 * num ≤ 2 * (roundDiv num den * den) + den := by
  have e : den * (num / den) + num % den = num := Nat.div_add_mod num den
  have l : num % den < den := Nat.mod_lt _ h
  simp only [roundDiv]
  generalize num / den = q at *
  generalize num % den = r at *
  have hq0 : q * den = den * q := Nat.mul_comm ..
  have hq1 : (q + 1) * den = den * q + den := by rw [Nat.add_mul, Nat.one_mul, hq0]
  have hq2 : q % 2 = 0 ∨ q % 2 = 1 := by omega
  generalize den * q = p at *
  split
  · omega
  · split
    · omega
    · rcases hq2 with h2 | h2 <;> simp only [h2, Nat.add_zero] <;> omega

def scaled (num den : Nat) (e : Int) : Nat :=
  roundDiv (num * pow2 (-e).toNat) (den * pow2 e.toNat)

def unitExponent (num den : Nat) : Int :=
  let e : Int := num.log2 - den.log2 - 52
  let short : Bool := num * pow2 (-e).toNat < den * pow2 e.toNat * leadingBit
  max (if short then e - 1 else e) (-1074)

/-- The code of the double nearest to `num / den`, of two the even one. -/
def nearestCode (num den : Nat) : Nat :=
  if num = 0 then 0
  else
    let e := unitExponent num den
    min ((e + 1074).toNat * leadingBit + scaled num den e) infiniteCode

def nearest (negative : Bool) (num den : Nat) : Float := ofCode negative (nearestCode num den)

def ofDecimal (negative : Bool) (digits : Nat) (exponent : Int) : Float :=
  -- beyond these exponents only zero and infinity are left
  let size : Int := (toString digits).length
  if 400 < size + exponent then if digits = 0 then ofCode negative 0 else infinity negative
  else if size + exponent < -400 then ofCode negative 0
  else nearest negative (digits * pow10 exponent.toNat) (pow10 (-exponent).toNat)

def ofInt (n : Int) : Float := nearest (n < 0) n.natAbs 1

def wholePart (x : Float) : Int :=
  let b := magnitude x
  let n : Nat := b.mantissa * pow2 b.exponent.toNat / pow2 (-b.exponent).toNat
  if isNegative x then -n else n

def leastInt64 : Int := -0x8000000000000000

def greatestInt64 : Int := 0x7FFFFFFFFFFFFFFF

def toInt64 (x : Float) : Int :=
  if isNan x then 0
  else if isFinite x then max leastInt64 (min greatestInt64 (wholePart x))
  else if isNegative x then leastInt64
  else greatestInt64

def remainder (x y : Float) : Float :=
  if isNan x || isNan y || !isFinite x || code y = 0 then nan
  else if !isFinite y then x
  else
    let a := magnitude x
    let b := magnitude y
    let e := min a.exponent b.exponent
    let m := a.mantissa * pow2 (a.exponent - e).toNat
    let n := b.mantissa * pow2 (b.exponent - e).toNat
    nearest (isNegative x) (m % n * pow2 e.toNat) (pow2 (-e).toNat)

end SheetTemplate.Number
