import SheetTemplate.Proofs.FixedPlaces

namespace SheetTemplate.Number

/-- From the middle between two numbers on, the greater one is the nearer. -/
theorem abs_sub_le_of_middle {a b x : ℚ} (hab : a ≤ b) (h : a + b ≤ 2 * x) : |b - x| ≤ |a - x| :=
  calc |b - x| ≤ x - a := abs_le.2 ⟨by linarith, by linarith⟩
    _ ≤ |a - x| := by
      rw [abs_sub_comm]
      exact le_abs_self _

/-- Up to the middle between two numbers the smaller one is the nearer. -/
theorem abs_sub_le_of_middle' {a b x : ℚ} (hab : a ≤ b) (h : 2 * x ≤ a + b) : |a - x| ≤ |b - x| :=
  calc |a - x| ≤ b - x := abs_le.2 ⟨by linarith, by linarith⟩
    _ ≤ |b - x| := le_abs_self _

namespace Binary

/-- The next magnitude is one last digit further; behind all digits of one size the digits double
in size. -/
theorem ofCode_succ (n : Nat) :
    ofCode (n + 1) = ⟨(ofCode n).mantissa + 1, (ofCode n).exponent⟩ ∨
      (ofCode n).mantissa + 1 = 2 * leadingBit ∧
        ofCode (n + 1) = ⟨leadingBit, (ofCode n).exponent + 1⟩ := by
  have hb := canonical_ofCode n
  generalize hcode : ofCode n = b at hb ⊢
  have hn : n = b.code := by rw [← hcode, code_ofCode]
  obtain ⟨hmantissa, hexponent, hleading⟩ := hb
  rcases Nat.lt_or_eq_of_le (Nat.succ_le_of_lt hmantissa) with hlt | heq
  · have hnext : Canonical ⟨b.mantissa + 1, b.exponent⟩ :=
      ⟨hlt, hexponent, hleading.imp_right Nat.le_succ_of_le⟩
    have hsucc : n + 1 = code ⟨b.mantissa + 1, b.exponent⟩ := by
      rw [hn, code, code, Nat.add_assoc]
    exact .inl (hsucc ▸ ofCode_code hnext)
  · refine .inr ⟨heq, ?_⟩
    have hnext : Canonical ⟨leadingBit, b.exponent + 1⟩ :=
      ⟨by dsimp only; decide, by dsimp only; omega, .inr le_rfl⟩
    have hsucc : n + 1 = code ⟨leadingBit, b.exponent + 1⟩ := by
      rw [hn]
      unfold code leadingBit at *
      dsimp only at *
      omega
    exact hsucc ▸ ofCode_code hnext

theorem value_succ (n : Nat) :
    (ofCode (n + 1)).value = ((ofCode n).mantissa + 1) * 2 ^ (ofCode n).exponent := by
  rcases ofCode_succ n with h | ⟨hcarry, h⟩
  · rw [h, value, Nat.cast_succ]
  · have hcarry' : ((ofCode n).mantissa + 1 : ℚ) = 2 * leadingBit := by exact_mod_cast hcarry
    rw [h, value, hcarry', zpow_add_one₀ two_ne_zero]
    ring

theorem strictMono_value : StrictMono fun n => (ofCode n).value := by
  refine strictMono_nat_of_lt_succ fun n => ?_
  rw [value_succ, value]
  exact mul_lt_mul_of_pos_right (lt_add_one _) (by positivity)

/-- The upper end is in the middle between a magnitude and the next one. -/
theorem two_mul_highEnd (n : Nat) :
    2 * ((ofCode n).highEnd * 2 ^ ((ofCode n).exponent - 2) : ℚ) =
      (ofCode n).value + (ofCode (n + 1)).value := by
  rw [value_succ, value, cast_highEnd, zpow_sub₀ two_ne_zero]
  ring

/-- The lower end is in the middle between a magnitude and the one before it. -/
theorem two_mul_lowEnd (n : Nat) :
    2 * ((ofCode (n + 1)).lowEnd * 2 ^ ((ofCode (n + 1)).exponent - 2) : ℚ) =
      (ofCode n).value + (ofCode (n + 1)).value := by
  have hb := canonical_ofCode n
  rw [value_succ, value]
  rcases ofCode_succ n with h | ⟨hcarry, h⟩ <;> rw [h] <;> dsimp only
  · have hwide : ¬ Narrow ⟨(ofCode n).mantissa + 1, (ofCode n).exponent⟩ := by
      rintro ⟨hmantissa, hexponent⟩
      have := hb.leading
      dsimp only at hmantissa hexponent
      omega
    rw [lowEnd, if_neg hwide, zpow_sub₀ two_ne_zero, Nat.cast_sub (by dsimp only; omega)]
    push_cast
    ring
  · have hnarrow : Narrow ⟨leadingBit, (ofCode n).exponent + 1⟩ :=
      ⟨rfl, Int.lt_add_one_of_le hb.exponent⟩
    have hcarry' : ((ofCode n).mantissa + 1 : ℚ) = 2 * leadingBit := by exact_mod_cast hcarry
    rw [hnarrow.cast_lowEnd, zpow_sub₀ two_ne_zero, zpow_add_one₀ two_ne_zero,
      eq_sub_of_add_eq hcarry']
    ring

/-- No magnitude is nearer to a number than the one that it rounds to. -/
theorem Rounds.abs_sub_le {n : Nat} {x : ℚ} (h : (ofCode n).Rounds x) (m : Nat) :
    |(ofCode n).value - x| ≤ |(ofCode m).value - x| := by
  have hmono := strictMono_value.monotone
  rcases Nat.lt_trichotomy m n with hlt | rfl | hlt
  · obtain ⟨k, rfl⟩ : ∃ k, n = k + 1 := ⟨n - 1, by omega⟩
    have hle : (ofCode m).value ≤ (ofCode k).value := hmono (Nat.le_of_lt_succ hlt)
    exact abs_sub_le_of_middle (hmono hlt.le) (by linarith [two_mul_lowEnd k, h.low])
  · exact le_rfl
  · have hle : (ofCode (n + 1)).value ≤ (ofCode m).value := hmono hlt
    exact abs_sub_le_of_middle' (hmono hlt.le) (by linarith [two_mul_highEnd n, h.high])

end Binary

theorem RoundsTo.natCast (n : Nat) : RoundsTo n n :=
  ⟨by linarith, by linarith, by rintro (h | h) <;> linarith⟩

/-- What is at least as near to a whole number as a number that rounds to it rounds to it too. -/
theorem RoundsTo.of_abs_le {x y : ℚ} {n : Nat} (h : RoundsTo x n) (hle : |y - n| ≤ |x - n|) :
    RoundsTo y n := by
  obtain ⟨hlow, hhigh, hends⟩ := h
  have hhalf : |x - n| ≤ 1 / 2 := abs_le.2 ⟨by linarith, by linarith⟩
  have hnear := abs_le.1 (hle.trans hhalf)
  refine ⟨by linarith, by linarith, fun hmiddle => hends ?_⟩
  -- at half a unit the other number is at half a unit as well
  have hfar : 1 / 2 ≤ |x - n| := by
    refine le_trans ?_ hle
    rcases hmiddle with h | h
    · exact le_abs.2 (.inr (by linarith))
    · exact le_abs.2 (.inl (by linarith))
  rcases le_abs.1 hfar with h | h
  · exact .inr (by linarith)
  · exact .inl (by linarith)

section

variable {b : Binary}

/-- Without digits behind the point nothing is rounded. -/
theorem inPlaces_div_of_nonneg (he : 0 ≤ b.exponent) (d : Nat) :
    (inPlaces b d / pow10 d : ℚ) = b.value := by
  have hvalue : b.value = (b.mantissa * pow2 b.exponent.toNat : Nat) := by
    rw [Binary.value, Nat.cast_mul, cast_pow2, ← zpow_natCast, Int.toNat_of_nonneg he]
  have hwhole : b.value * 10 ^ d = (b.mantissa * pow2 b.exponent.toNat * pow10 d : Nat) := by
    rw [hvalue, Nat.cast_mul _ (pow10 d), cast_pow10]
  have hround := roundsTo_inPlaces b d
  rw [hwhole] at hround
  rw [hround.unique (.natCast _), ← hwhole, cast_pow10, mul_div_cancel_right₀ _ (by positivity)]

/-- With digits behind the point a number is far from the greatest double. -/
theorem inPlaces_div_lt (hb : b.Canonical) (he : b.exponent < 0) (d : Nat) :
    (inPlaces b d / pow10 d : ℚ) < 2 ^ 1023 := by
  have hpos : (1 : ℚ) ≤ 10 ^ d := one_le_pow₀ (by norm_num)
  have hround := (roundsTo_inPlaces b d).low
  have hsize : b.value ≤ 2 * leadingBit := by
    have hmantissa : (b.mantissa : ℚ) ≤ 2 * leadingBit := by exact_mod_cast hb.mantissa.le
    calc b.value ≤ b.mantissa * 1 :=
          mul_le_mul_of_nonneg_left (zpow_le_one_of_nonpos₀ one_le_two he.le) (Nat.cast_nonneg _)
      _ ≤ 2 * leadingBit := by rwa [mul_one]
  calc (inPlaces b d / pow10 d : ℚ) ≤ 2 * leadingBit + 1 := by
        rw [cast_pow10, div_le_iff₀ (by linarith)]
        nlinarith
    _ ≤ 2 ^ 54 := by norm_num [leadingBit]
    _ < 2 ^ 1023 := pow_lt_pow_right₀ one_lt_two (by decide)

theorem nearestCode_inPlaces_lt (hb : b.Canonical) (hcode : b.code < infiniteCode) (d : Nat) :
    nearestCode (inPlaces b d) (pow10 d) < infiniteCode := by
  rcases le_or_gt 0 b.exponent with he | he
  · have hrounds := b.rounds_value
    rw [← inPlaces_div_of_nonneg he d] at hrounds
    rwa [nearestCode_eq (pow10_pos d).ne' hb hcode hrounds]
  · exact nearestCode_lt (pow10_pos d).ne' (inPlaces_div_lt hb he d)

/-- The double nearest to a rounded number rounds to the same places. -/
theorem inPlaces_nearestCode (n : Nat) (hn : n < infiniteCode) (d : Nat) :
    inPlaces (.ofCode (nearestCode (inPlaces (.ofCode n) d) (pow10 d))) d =
      inPlaces (.ofCode n) d := by
  have hfinite := nearestCode_inPlaces_lt (Binary.canonical_ofCode n)
    (by rwa [Binary.code_ofCode]) d
  have hrounds := rounds_nearestCode (pow10_pos d).ne' hfinite
  have hnearest := hrounds.abs_sub_le n
  generalize nearestCode (inPlaces (.ofCode n) d) (pow10 d) = m at *
  generalize hk : inPlaces (.ofCode n) d = k at *
  have hround := roundsTo_inPlaces (.ofCode n) d
  rw [hk] at hround
  refine (roundsTo_inPlaces _ d).unique (hround.of_abs_le ?_)
  have hscale (v : ℚ) : v * 10 ^ d - k = (v - k / pow10 d) * 10 ^ d := by
    rw [cast_pow10]
    field_simp
  rw [hscale, hscale, abs_mul, abs_mul]
  exact mul_le_mul_of_nonneg_right hnearest (abs_nonneg _)

end

section

variable {x : Float}

/-- Rounding keeps a number finite and its sign, also the sign of a zero. -/
theorem roundTo_of_finite (h : isFinite x = true) (d : Nat) :
    isFinite (roundTo d x) = true ∧ isNegative (roundTo d x) = isNegative x ∧
      code (roundTo d x) = nearestCode (inPlaces (magnitude x) d) (pow10 d) := by
  have hcode : (magnitude x).code < infiniteCode := by
    rw [magnitude, Binary.code_ofCode]
    exact of_decide_eq_true h
  have hlt := nearestCode_inPlaces_lt (b := magnitude x) (Binary.canonical_ofCode _) hcode d
  have hkept := code_ofCode hlt.le (isNegative x)
  rw [roundTo, if_pos h, nearest]
  refine ⟨?_, isNegative_ofCode hlt.le _, hkept⟩
  rw [isFinite, hkept]
  exact decide_eq_true hlt

theorem inPlaces_roundTo (h : isFinite x = true) (d : Nat) :
    inPlaces (magnitude (roundTo d x)) d = inPlaces (magnitude x) d := by
  rw [magnitude, (roundTo_of_finite h d).2.2]
  exact inPlaces_nearestCode _ (of_decide_eq_true h) d

theorem roundTo_of_not_finite (h : isFinite x = false) (d : Nat) : roundTo d x = x := by
  rw [roundTo, h]
  rfl

theorem roundTo_roundTo (d : Nat) (x : Float) : roundTo d (roundTo d x) = roundTo d x := by
  cases h : isFinite x with
  | false => rw [roundTo_of_not_finite h, roundTo_of_not_finite h]
  | true =>
    obtain ⟨hfinite, hsign, -⟩ := roundTo_of_finite h d
    conv_lhs => rw [roundTo, if_pos hfinite, hsign, inPlaces_roundTo h]
    rw [roundTo, if_pos h]

theorem placesText_roundTo (d : Nat) (x : Float) :
    placesText d (roundTo d x) = placesText d x := by
  cases h : isFinite x with
  | false => rw [roundTo_of_not_finite h]
  | true =>
    obtain ⟨hfinite, hsign, -⟩ := roundTo_of_finite h d
    rw [placesText_of_finite hfinite, placesText_of_finite h, inPlaces_roundTo h, signed, signed,
      hsign]

/-- A rounded number is the double that its text reads as. -/
theorem readFloat?_placesText (h : isFinite x = true) (d : Nat) :
    readFloat? (placesText d x).toList = some (roundTo d x) := by
  obtain ⟨hfinite, -, hcode⟩ := roundTo_of_finite h d
  have hlt : nearestCode (inPlaces (magnitude x) d) (pow10 d) < infiniteCode :=
    hcode ▸ of_decide_eq_true hfinite
  have hrounds := rounds_nearestCode (pow10_pos d).ne' hlt
  have hdecimal : (inPlaces (magnitude x) d * 10 ^ (-d : ℤ) : ℚ) =
      inPlaces (magnitude x) d / pow10 d := by
    rw [zpow_neg, zpow_natCast, cast_pow10, div_eq_mul_inv]
  have hread := ofDecimal_eq (Binary.canonical_ofCode _) (by rwa [Binary.code_ofCode])
    (hdecimal ▸ hrounds) (isNegative x)
  rw [placesText_of_finite h, readFloat?_signed (pointed_ne_nil _ _) fun _ => isDigit_of_mem_pointed,
    readMagnitude?_pointed, hread, Binary.code_ofCode, roundTo, if_pos h, nearest]

end

end SheetTemplate.Number
