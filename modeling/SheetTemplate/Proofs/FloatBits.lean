import SheetTemplate.Proofs.Rounding

namespace SheetTemplate.Number

open Float.Model (Format)

open Float.Model.UnpackedFloat

section

variable {b : BitVec Format.binary64.numBits}

theorem append_extractLsb (b : BitVec 64) :
    b.extractLsb 63 63 ++ b.extractLsb 62 52 ++ b.extractLsb 51 0 = b := by
  refine BitVec.eq_of_getLsbD_eq fun i hi => ?_
  rw [BitVec.getLsbD_append, BitVec.getLsbD_append]
  simp only [BitVec.getLsbD_extractLsb]
  split
  · simp only [Nat.zero_add, Bool.and_eq_right_iff_imp, decide_eq_true_eq]
    omega
  · split
    · rw [show 52 + (i - (51 - 0 + 1)) = i by omega, decide_eq_true (by omega), Bool.true_and]
    · rw [show 63 + (i - (51 - 0 + 1) - (62 - 52 + 1)) = i by omega, decide_eq_true (by omega),
        Bool.true_and]

theorem toBitVec_ofBitVec : ∀ b : BitVec 1, (Sign.ofBitVec b).toBitVec = b := by decide

/-- A bit pattern is its sign, its exponent and its mantissa. -/
theorem packComponents_unpack (b : BitVec Format.binary64.numBits) :
    packComponents Format.binary64 (.ofBitVec (unpackSign b)) (unpackExponent b) (unpackMantissa b) =
      b := by
  rw [packComponents, toBitVec_ofBitVec]
  exact append_extractLsb b

theorem mantissaBits_eq : Format.binary64.mantissaBits = 53 := rfl

theorem pack_subnormal {s : Sign} {m : BitVec 52} (h : 0 < m.toNat) :
    pack Format.binary64 (.finite s m.toNat (-1074) h) = packComponents Format.binary64 s 0#11 m := by
  have hlog : m.toNat.log2 < 52 := (Nat.log2_lt (Nat.ne_of_gt h)).2 m.isLt
  unfold pack
  dsimp only
  rw [if_neg (by decide), if_neg (by rw [mantissaBits_eq]; omega), BitVec.ofNat_toNat,
    BitVec.setWidth_eq]

theorem pack_normal {s : Sign} {e : BitVec 11} {m : BitVec 52} (he : e ≠ -1#11)
    (h : 0 < (1#1 ++ m).toNat) :
    pack Format.binary64 (.finite s (1#1 ++ m).toNat (e.toNat - 1075) h) =
      packComponents Format.binary64 s e m := by
  have hleading : (1#1 ++ m).toNat = 2 ^ 52 + m.toNat := by
    have hor := Nat.two_pow_add_eq_or_of_lt m.isLt 1
    rw [BitVec.toNat_append, Nat.shiftLeft_eq]
    exact hor.symm
  have hm := m.isLt
  have hlog : (1#1 ++ m).toNat.log2 = 52 := by
    rw [hleading, Nat.log2_eq_iff (by omega)]
    omega
  have hbiased : ((e.toNat - 1075 : Int) + Format.binary64.exponentBias + (52 : Nat)).toNat =
      e.toNat := by
    have hbias : (Format.binary64.exponentBias : Int) = 1023 := rfl
    omega
  have hlt := e.isLt
  have hne : e.toNat ≠ 2047 := fun h => he (BitVec.eq_of_toNat_eq h)
  have hdigits : BitVec.ofNat 52 (2 ^ 52 + m.toNat) = m := by
    refine BitVec.eq_of_toNat_eq ?_
    rw [BitVec.toNat_ofNat, Nat.add_mod_left, Nat.mod_eq_of_lt hm]
  unfold pack
  dsimp only
  rw [hbiased, hlog, if_neg (by omega), if_pos mantissaBits_eq.symm, hleading, hdigits,
    BitVec.ofNat_toNat, BitVec.setWidth_eq]

/-- A bit pattern is the same again after it was unpacked, unless it is another pattern of what is
no number than the chosen one. -/
theorem pack_unpack (h : Format.binary64.Valid b) :
    pack Format.binary64 (unpack Format.binary64 b) = b := by
  have hb := packComponents_unpack b
  unfold unpack
  dsimp only
  by_cases hexponent : unpackExponent b = -1#11
  · rw [if_pos hexponent]
    rw [hexponent] at hb
    by_cases hzero : unpackMantissa b = 0#52
    · rw [if_pos hzero]
      rw [hzero] at hb
      exact hb
    · rw [if_neg hzero]
      exact (h.eq_packedNaN hexponent hzero).symm
  · rw [if_neg hexponent]
    by_cases hsmall : unpackExponent b = 0#11
    · rw [if_pos hsmall]
      rw [hsmall] at hb ⊢
      by_cases hzero : unpackMantissa b = 0#52
      · rw [dif_pos hzero]
        rw [hzero] at hb
        exact hb
      · rw [dif_neg hzero]
        exact (pack_subnormal _).trans hb
    · rw [if_neg hsmall]
      exact (pack_normal hexponent _).trans hb

theorem toNat_unpackExponent (b : BitVec Format.binary64.numBits) :
    (unpackExponent b).toNat = b.toNat / 2 ^ 52 % 2 ^ 11 := by
  simp [unpackExponent, Nat.shiftRight_eq_div_pow]

theorem toNat_unpackMantissa (b : BitVec Format.binary64.numBits) :
    (unpackMantissa b).toNat = b.toNat % 2 ^ 52 := by
  simp [unpackMantissa]

/-- The patterns up to those of infinity are those of numbers. -/
theorem valid_of_le (h : b.toNat % signBit ≤ infiniteCode) : Format.binary64.Valid b where
  eq_packedNaN hexponent hmantissa := by
    have hones := congrArg BitVec.toNat hexponent
    rw [toNat_unpackExponent] at hones
    refine absurd (BitVec.eq_of_toNat_eq ?_) hmantissa
    rw [toNat_unpackMantissa]
    change b.toNat / 2 ^ 52 % 2 ^ 11 = 2047 at hones
    change b.toNat % 2 ^ 52 = 0
    unfold signBit infiniteCode at h
    omega

end

theorem toBits_ofBits {n : UInt64} (h : Format.binary64.Valid n.toBitVec) :
    (Float.ofBits n).toBits = n :=
  congrArg UInt64.ofBitVec (pack_unpack h)

theorem toBits_inj {x y : Float} (h : x.toBits = y.toBits) : x = y := by
  obtain ⟨⟨_, _⟩⟩ := x
  obtain ⟨⟨_, _⟩⟩ := y
  cases h
  rfl

theorem ofBits_toBits (x : Float) : Float.ofBits x.toBits = x :=
  toBits_inj (toBits_ofBits x.toModel.valid)

/-- A double is told by its sign and its code. -/
theorem ofCode_code (x : Float) : ofCode (isNegative x) (code x) = x := by
  have hbits : (if isNegative x then signBit + code x else code x) = x.toBits.toNat := by
    have hlt := x.toBits.toNat_lt
    unfold isNegative code
    simp only [decide_eq_true_eq]
    unfold signBit at *
    split <;> omega
  unfold ofCode
  rw [hbits]
  exact (congrArg Float.ofBits (UInt64.ofNat_toNat)).trans (ofBits_toBits x)

section

variable {n : Nat} (h : n ≤ infiniteCode) (negative : Bool)

include h

theorem toNat_toBits_ofCode :
    (ofCode negative n).toBits.toNat = if negative then signBit + n else n := by
  have hlt : (if negative then signBit + n else n) < 2 ^ 64 := by
    unfold signBit infiniteCode at *
    split <;> omega
  have hnat : (UInt64.ofNat (if negative then signBit + n else n)).toNat =
      if negative then signBit + n else n := UInt64.toNat_ofNat_of_lt hlt
  unfold ofCode
  rw [toBits_ofBits (valid_of_le ?_), hnat]
  change (UInt64.ofNat _).toNat % signBit ≤ infiniteCode
  rw [hnat]
  unfold signBit infiniteCode at *
  split <;> omega

theorem code_ofCode : code (ofCode negative n) = n := by
  unfold code
  rw [toNat_toBits_ofCode h]
  unfold signBit infiniteCode at *
  split <;> omega

theorem isNegative_ofCode : isNegative (ofCode negative n) = negative := by
  unfold isNegative
  rw [toNat_toBits_ofCode h]
  unfold signBit infiniteCode at *
  cases negative <;> simp
  omega

end

/-- There is but one double that is no number. -/
theorem eq_nan {x : Float} (h : isNan x = true) : x = nan := by
  have hcode : infiniteCode < code x := of_decide_eq_true h
  have hlt := x.toBits.toNat_lt
  have hpacked : x.toBits.toBitVec = packedNaN Format.binary64 := by
    refine x.toModel.valid.eq_packedNaN ?_ fun hzero => ?_
    · refine BitVec.eq_of_toNat_eq ?_
      rw [toNat_unpackExponent]
      change x.toBits.toNat / 2 ^ 52 % 2 ^ 11 = 2047
      unfold code signBit infiniteCode at hcode
      omega
    · have hmantissa := congrArg BitVec.toNat hzero
      rw [toNat_unpackMantissa] at hmantissa
      change x.toBits.toNat % 2 ^ 52 = 0 at hmantissa
      unfold code signBit infiniteCode at hcode
      omega
  refine toBits_inj ?_
  rw [← UInt64.toBitVec_inj, hpacked]
  rfl

structure NearestInt (n : Int) (x : Float) : Prop where
  finite : isFinite x = true
  sign : isNegative x = decide (n < 0)
  rounds : (magnitude x).Rounds n.natAbs

theorem nearest_ofInt {n : Int} (h : n.natAbs < 2 ^ 1023) : NearestInt n (ofInt n) := by
  have hone : (n.natAbs / (1 : Nat) : ℚ) = n.natAbs := by rw [Nat.cast_one, div_one]
  have hlt : (n.natAbs / (1 : Nat) : ℚ) < 2 ^ 1023 := by
    rw [hone]
    exact_mod_cast h
  have hfinite := nearestCode_lt one_ne_zero hlt
  have hrounds := rounds_nearestCode one_ne_zero hfinite
  rw [hone] at hrounds
  have hcode := code_ofCode hfinite.le (decide (n < 0))
  refine ⟨?_, isNegative_ofCode hfinite.le _, ?_⟩
  · rw [ofInt, nearest, isFinite, hcode]
    exact decide_eq_true hfinite
  · rw [ofInt, nearest, magnitude, hcode]
    exact hrounds

end SheetTemplate.Number
