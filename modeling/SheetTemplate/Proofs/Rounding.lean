import Mathlib.Algebra.Order.Field.Power
import Mathlib.Data.Rat.Cast.Order
import Mathlib.Tactic.FieldSimp
import Mathlib.Tactic.Linarith
import Mathlib.Tactic.LinearCombination
import Mathlib.Tactic.NormNum.Pow
import Mathlib.Tactic.Ring
import SheetTemplate.Number.Decimal

namespace SheetTemplate.Number

theorem cast_pow2 (n : Nat) : (pow2 n : ℚ) = 2 ^ n := Nat.cast_pow 2 n

theorem cast_pow10 (n : Nat) : (pow10 n : ℚ) = 10 ^ n := Nat.cast_pow 10 n

/-- A power by the two natural numbers of which its exponent is the difference. -/
theorem zpow_eq_div {b : ℚ} (hb : b ≠ 0) (e : ℤ) : b ^ e = b ^ e.toNat / b ^ (-e).toNat := by
  rw [← zpow_natCast, ← zpow_natCast, ← zpow_sub₀ hb]
  exact congrArg _ (by omega)

namespace Binary

def value (b : Binary) : ℚ := b.mantissa * 2 ^ b.exponent

structure Canonical (b : Binary) : Prop where
  mantissa : b.mantissa < 2 * leadingBit
  exponent : -1074 ≤ b.exponent
  leading : b.exponent = -1074 ∨ leadingBit ≤ b.mantissa

theorem canonical_ofCode (n : Nat) : (ofCode n).Canonical := by
  unfold ofCode leadingBit
  split
  case isTrue h =>
    exact ⟨Nat.lt_trans h (by decide), Int.le_refl _, .inl rfl⟩
  case isFalse h =>
    refine ⟨?_, ?_, .inr ?_⟩ <;> dsimp only [leadingBit] <;> omega

def code (b : Binary) : Nat := (b.exponent + 1074).toNat * leadingBit + b.mantissa

theorem code_ofCode (n : Nat) : (ofCode n).code = n := by
  unfold code ofCode leadingBit
  split <;> dsimp only <;> omega

def Narrow (b : Binary) : Prop := b.mantissa = leadingBit ∧ -1074 < b.exponent

instance (b : Binary) : Decidable b.Narrow := inferInstanceAs (Decidable (_ ∧ _))

def lowEnd (b : Binary) : Nat := if b.Narrow then 4 * b.mantissa - 1 else 4 * b.mantissa - 2

def highEnd (b : Binary) : Nat := 4 * b.mantissa + 2

/-- The numbers that round to a magnitude. The ends belong to an even mantissa. -/
structure Rounds (b : Binary) (x : ℚ) : Prop where
  low : b.lowEnd * 2 ^ (b.exponent - 2) ≤ x
  high : x ≤ b.highEnd * 2 ^ (b.exponent - 2)
  ends : x = b.lowEnd * 2 ^ (b.exponent - 2) ∨ x = b.highEnd * 2 ^ (b.exponent - 2) →
    b.mantissa % 2 = 0

end Binary

structure RoundsTo (x : ℚ) (m : Nat) : Prop where
  low : 2 * m - 1 ≤ 2 * x
  high : 2 * x ≤ 2 * m + 1
  ends : 2 * x = 2 * m - 1 ∨ 2 * x = 2 * m + 1 → m % 2 = 0

theorem RoundsTo.unique {x : ℚ} {m n : Nat} (hm : RoundsTo x m) (hn : RoundsTo x n) : m = n := by
  have hle : m ≤ n + 1 := by
    have : (m : ℚ) ≤ n + 1 := by linarith [hm.low, hn.high]
    exact_mod_cast this
  have hge : n ≤ m + 1 := by
    have : (n : ℚ) ≤ m + 1 := by linarith [hn.low, hm.high]
    exact_mod_cast this
  -- two neighbours are equally far only from the middle between them, and one of them is odd
  rcases Nat.lt_trichotomy m n with hlt | heq | hlt
  · obtain rfl : n = m + 1 := by omega
    have hlow := hn.low
    push_cast at hlow
    have hmiddle : 2 * x = 2 * m + 1 := by linarith [hm.high]
    have hodd := hn.ends (.inl (by push_cast; linarith))
    have heven := hm.ends (.inr hmiddle)
    omega
  · exact heq
  · obtain rfl : m = n + 1 := by omega
    have hlow := hm.low
    push_cast at hlow
    have hmiddle : 2 * x = 2 * n + 1 := by linarith [hn.high]
    have hodd := hm.ends (.inl (by push_cast; linarith))
    have heven := hn.ends (.inr hmiddle)
    omega

theorem roundDiv_even {num den : Nat} (h : 0 < den)
    (hends : 2 * (roundDiv num den * den) = 2 * num + den ∨
      2 * num = 2 * (roundDiv num den * den) + den) : roundDiv num den % 2 = 0 := by
  have hsplit : num / den * den + num % den = num := Nat.div_add_mod' num den
  have hrest : num % den < den := Nat.mod_lt _ h
  unfold roundDiv at hends ⊢
  dsimp only at hends ⊢
  generalize num / den = q at *
  generalize num % den = r at *
  have hsucc : (q + 1) * den = q * den + den := Nat.succ_mul q den
  split at hends
  case isTrue => omega
  case isFalse hlow =>
    split at hends
    case isTrue => omega
    case isFalse hhigh =>
      rw [if_neg hlow, if_neg hhigh]
      omega

theorem roundsTo_roundDiv {num den : Nat} (h : 0 < den) :
    RoundsTo (num / den) (roundDiv num den) := by
  obtain ⟨hlow, hhigh⟩ := roundDiv_near num den h
  have hends := @roundDiv_even num den h
  generalize roundDiv num den = m at *
  have hpos : (0 : ℚ) < den := Nat.cast_pos.2 h
  have hlow' : (2 * (m * den) : ℚ) ≤ 2 * num + den := by exact_mod_cast hlow
  have hhigh' : (2 * num : ℚ) ≤ 2 * (m * den) + den := by exact_mod_cast hhigh
  rw [← Nat.cast_inj (R := ℚ), ← Nat.cast_inj (R := ℚ)] at hends
  push_cast at hends
  obtain ⟨x, hx⟩ : ∃ x : ℚ, (num : ℚ) = x * den := ⟨_, (div_mul_cancel₀ _ hpos.ne').symm⟩
  rw [hx] at hlow' hhigh' hends
  rw [hx, mul_div_cancel_right₀ _ hpos.ne']
  refine ⟨?_, ?_, fun h => hends (h.imp ?_ ?_)⟩
  · exact le_of_mul_le_mul_right (by linarith) hpos
  · exact le_of_mul_le_mul_right (by linarith) hpos
  · intro h
    linear_combination -den * h
  · intro h
    linear_combination den * h

/-- Fractions in units of a power of two. -/
theorem cast_scaled {num den : Nat} (hden : den ≠ 0) (e : ℤ) :
    ((num * pow2 (-e).toNat : Nat) : ℚ) = num / den / 2 ^ e * (den * pow2 e.toNat : Nat) := by
  have hpos : (den : ℚ) ≠ 0 := Nat.cast_ne_zero.2 hden
  rw [Nat.cast_mul, Nat.cast_mul, cast_pow2, cast_pow2, zpow_eq_div two_ne_zero e]
  field_simp

theorem roundsTo_scaled {num den : Nat} (hden : den ≠ 0) (e : ℤ) :
    RoundsTo (num / den / 2 ^ e) (scaled num den e) := by
  have hunit : 0 < den * pow2 e.toNat := Nat.mul_pos (Nat.pos_of_ne_zero hden) (pow2_pos _)
  have hquotient : (num / den / 2 ^ e : ℚ) =
      (num * pow2 (-e).toNat : Nat) / (den * pow2 e.toNat : Nat) := by
    rw [cast_scaled hden, mul_div_cancel_right₀ _ (Nat.cast_ne_zero.2 hunit.ne')]
  rw [hquotient]
  exact roundsTo_roundDiv hunit

theorem div_zpow_lt_iff {x : ℚ} {e : ℤ} : x / 2 ^ e < 2 * leadingBit ↔ x < 2 ^ (e + 53) := by
  rw [div_lt_iff₀ (by positivity), zpow_add₀ two_ne_zero, mul_comm (2 ^ e : ℚ)]
  norm_num [leadingBit]

theorem le_div_zpow_iff {x : ℚ} {e : ℤ} : leadingBit ≤ x / 2 ^ e ↔ 2 ^ (e + 52) ≤ x := by
  rw [le_div_iff₀ (by positivity), zpow_add₀ two_ne_zero, mul_comm (2 ^ e : ℚ)]
  norm_num [leadingBit]

structure HasUnit (x : ℚ) (e : ℤ) : Prop where
  least : -1074 ≤ e
  digits : x / 2 ^ e < 2 * leadingBit
  leading : e = -1074 ∨ leadingBit ≤ x / 2 ^ e

theorem HasUnit.unique {x : ℚ} {e e' : ℤ} (h : HasUnit x e) (h' : HasUnit x e') : e = e' := by
  have hle {e e' : ℤ} (h : HasUnit x e) (h' : HasUnit x e') : e ≤ e' := by
    rcases h.leading with rfl | hleading
    · exact h'.least
    · have hlt := (le_div_zpow_iff.1 hleading).trans_lt (div_zpow_lt_iff.1 h'.digits)
      have := (zpow_lt_zpow_iff_right₀ one_lt_two).1 hlt
      omega
  exact le_antisymm (hle h h') (hle h' h)

/-- Between which powers of two a positive fraction lies. -/
theorem log2_bounds {num den : Nat} (hnum : num ≠ 0) (hden : den ≠ 0) :
    (2 : ℚ) ^ ((num.log2 : ℤ) - den.log2 - 1) < num / den ∧
      (num / den : ℚ) < 2 ^ ((num.log2 : ℤ) - den.log2 + 1) := by
  have hpos : (0 : ℚ) < den := Nat.cast_pos.2 (Nat.pos_of_ne_zero hden)
  have hnumLow : (2 : ℚ) ^ num.log2 ≤ num := by exact_mod_cast Nat.log2_self_le hnum
  have hnumHigh : (num : ℚ) < 2 ^ (num.log2 + 1) := by exact_mod_cast Nat.lt_log2_self
  have hdenLow : (2 : ℚ) ^ den.log2 ≤ den := by exact_mod_cast Nat.log2_self_le hden
  have hdenHigh : (den : ℚ) < 2 ^ (den.log2 + 1) := by exact_mod_cast Nat.lt_log2_self
  constructor
  · rw [lt_div_iff₀ hpos, sub_sub, zpow_sub₀ two_ne_zero, div_mul_eq_mul_div,
      div_lt_iff₀ (by positivity)]
    exact mul_lt_mul' (by simpa using hnumLow) (by exact_mod_cast hdenHigh) hpos.le (by positivity)
  · rw [div_lt_iff₀ hpos]
    calc (num : ℚ) < 2 ^ (num.log2 + 1) := hnumHigh
      _ = 2 ^ ((num.log2 : ℤ) - den.log2 + 1) * 2 ^ den.log2 := by
        rw [← zpow_natCast, ← zpow_natCast, ← zpow_add₀ two_ne_zero]
        exact congrArg _ (by push_cast; ring)
      _ ≤ 2 ^ ((num.log2 : ℤ) - den.log2 + 1) * den :=
        mul_le_mul_of_nonneg_left hdenLow (by positivity)

theorem hasUnit_unitExponent {num den : Nat} (hnum : num ≠ 0) (hden : den ≠ 0) :
    HasUnit (num / den) (unitExponent num den) := by
  obtain ⟨hbelow, habove⟩ := log2_bounds hnum hden
  unfold unitExponent
  dsimp only
  generalize (num.log2 : ℤ) - den.log2 = k at *
  have hshort : num * pow2 (-(k - 52)).toNat < den * pow2 (k - 52).toNat * leadingBit ↔
      (num / den : ℚ) < 2 ^ k := by
    have hpos : (0 : ℚ) < (den * pow2 (k - 52).toNat : Nat) :=
      Nat.cast_pos.2 (Nat.mul_pos (Nat.pos_of_ne_zero hden) (pow2_pos _))
    rw [← @Nat.cast_lt ℚ, cast_scaled hden, Nat.cast_mul _ leadingBit,
      mul_comm _ (leadingBit : ℚ), mul_lt_mul_iff_left₀ hpos, ← not_le, le_div_zpow_iff,
      sub_add_cancel, not_le]
  have hmono {i j : ℤ} (h : i ≤ j) : (2 : ℚ) ^ i ≤ 2 ^ j := zpow_le_zpow_right₀ one_le_two h
  simp only [decide_eq_true_eq, hshort]
  split
  case isTrue h =>
    refine ⟨le_max_right _ _, div_zpow_lt_iff.2 (h.trans_le (hmono (by omega))), ?_⟩
    rcases le_total (k - 52 - 1) (-1074) with hle | hle
    · exact .inl (max_eq_right hle)
    · rw [max_eq_left hle]
      exact .inr (le_div_zpow_iff.2 ((hmono (by omega)).trans hbelow.le))
  case isFalse h =>
    refine ⟨le_max_right _ _, div_zpow_lt_iff.2 (habove.trans_le (hmono (by omega))), ?_⟩
    rcases le_total (k - 52) (-1074) with hle | hle
    · exact .inl (max_eq_right hle)
    · rw [max_eq_left hle]
      exact .inr (le_div_zpow_iff.2 ((hmono (by omega)).trans (not_lt.1 h)))

theorem HasUnit.le_of_roundsTo {x : ℚ} {e : ℤ} {m : Nat} (h : HasUnit x e)
    (hm : RoundsTo (x / 2 ^ e) m) : m ≤ 2 * leadingBit := by
  have : (m : ℚ) < 2 * leadingBit + 1 := by linarith [h.digits, hm.low]
  exact Nat.le_of_lt_succ (by exact_mod_cast this)

/-- The code of a fraction by its digits before the point. -/
theorem nearestCode_spec (num : Nat) {den : Nat} (hden : den ≠ 0) :
    ∃ e m, HasUnit (num / den) e ∧ RoundsTo (num / den / 2 ^ e) m ∧
      nearestCode num den = min ((e + 1074).toNat * leadingBit + m) infiniteCode := by
  unfold nearestCode
  split
  case isTrue h =>
    refine ⟨-1074, 0, ?_, ?_, rfl⟩ <;> rw [h, Nat.cast_zero, zero_div]
    · exact ⟨le_rfl, by rw [zero_div]; norm_num [leadingBit], .inl rfl⟩
    · rw [zero_div]
      exact ⟨by norm_num, by norm_num, fun _ => rfl⟩
  case isFalse h => exact ⟨_, _, hasUnit_unitExponent h hden, roundsTo_scaled hden _, rfl⟩

namespace Binary

variable {b : Binary} {x : ℚ}

/-- The numbers that round to a magnitude, in quarters of the last digit. -/
theorem rounds_iff_div : b.Rounds x ↔
    b.lowEnd ≤ 4 * (x / 2 ^ b.exponent) ∧ 4 * (x / 2 ^ b.exponent) ≤ b.highEnd ∧
      (4 * (x / 2 ^ b.exponent) = b.lowEnd ∨ 4 * (x / 2 ^ b.exponent) = b.highEnd →
        b.mantissa % 2 = 0) := by
  have hquarter : (0 : ℚ) < 2 ^ (b.exponent - 2) := by positivity
  have hx : x = 4 * (x / 2 ^ b.exponent) * 2 ^ (b.exponent - 2) := by
    rw [zpow_sub₀ two_ne_zero]
    field_simp
    norm_num
  generalize 4 * (x / 2 ^ b.exponent) = y at *
  subst hx
  constructor
  · rintro ⟨hlow, hhigh, hends⟩
    rw [mul_left_inj' hquarter.ne', mul_left_inj' hquarter.ne'] at hends
    exact ⟨le_of_mul_le_mul_right hlow hquarter, le_of_mul_le_mul_right hhigh hquarter, hends⟩
  · rintro ⟨hlow, hhigh, hends⟩
    refine ⟨mul_le_mul_of_nonneg_right hlow hquarter.le,
      mul_le_mul_of_nonneg_right hhigh hquarter.le, ?_⟩
    rwa [mul_left_inj' hquarter.ne', mul_left_inj' hquarter.ne']

theorem cast_highEnd (b : Binary) : (b.highEnd : ℚ) = 4 * b.mantissa + 2 := by
  unfold highEnd
  push_cast
  rfl

theorem le_lowEnd (b : Binary) : (4 * b.mantissa - 2 : ℚ) ≤ b.lowEnd := by
  have : 4 * b.mantissa ≤ b.lowEnd + 2 := by
    unfold lowEnd
    split <;> omega
  have : (4 * b.mantissa : ℚ) ≤ b.lowEnd + 2 := by exact_mod_cast this
  linarith

theorem Narrow.cast_lowEnd (h : b.Narrow) : (b.lowEnd : ℚ) = 4 * leadingBit - 1 := by
  rw [lowEnd, if_pos h, h.1]
  norm_num [leadingBit]

/-- A number below the power of two that it rounds to has digits of half the size. -/
theorem Rounds.hasUnit_below (hnarrow : b.Narrow) (h : b.Rounds x)
    (hlt : x / 2 ^ b.exponent < leadingBit) :
    HasUnit x (b.exponent - 1) ∧ RoundsTo (x / 2 ^ (b.exponent - 1)) (2 * leadingBit) := by
  obtain ⟨hlow, -, -⟩ := rounds_iff_div.1 h
  have hone : (1 : ℚ) ≤ leadingBit := by norm_num [leadingBit]
  have hhalves : x / 2 ^ (b.exponent - 1) = 2 * (x / 2 ^ b.exponent) := by
    rw [zpow_sub_one₀ two_ne_zero]
    field_simp
  rw [hnarrow.cast_lowEnd] at hlow
  obtain ⟨-, he⟩ := hnarrow
  refine ⟨⟨by omega, ?_, .inr ?_⟩, ⟨?_, ?_, fun _ => rfl⟩⟩
  · rw [hhalves]
    linarith
  · rw [hhalves]
    linarith
  · rw [hhalves, Nat.cast_mul, Nat.cast_ofNat]
    linarith
  · rw [hhalves, Nat.cast_mul, Nat.cast_ofNat]
    linarith

/-- Every other number that rounds to a magnitude has digits of the same size. -/
theorem Rounds.hasUnit (hb : b.Canonical) (h : b.Rounds x)
    (hle : b.Narrow → leadingBit ≤ x / 2 ^ b.exponent) :
    HasUnit x b.exponent ∧ RoundsTo (x / 2 ^ b.exponent) b.mantissa := by
  obtain ⟨hmantissa, hexponent, hleading⟩ := hb
  obtain ⟨hlow, hhigh, hends⟩ := rounds_iff_div.1 h
  have hlowest := b.le_lowEnd
  rw [b.cast_highEnd] at hhigh hends
  refine ⟨⟨hexponent, ?_, ?_⟩, ⟨by linarith, by linarith, ?_⟩⟩
  · have : (b.mantissa : ℚ) + 1 ≤ 2 * leadingBit := by exact_mod_cast hmantissa
    linarith
  · rcases hleading with he | hle'
    · exact .inl he
    · rcases Nat.eq_or_lt_of_le hle' with hm | hlt
      · exact or_iff_not_imp_left.2 fun he => hle ⟨hm.symm, lt_of_le_of_ne hexponent (Ne.symm he)⟩
      · have : (leadingBit : ℚ) + 1 ≤ b.mantissa := by exact_mod_cast hlt
        exact .inr (by linarith)
  · rintro (h | h)
    · exact hends (.inl (by linarith))
    · exact hends (.inr (by linarith))

/-- A number that rounds to a magnitude has the code of the magnitude in its own unit. -/
theorem Rounds.exists_unit (hb : b.Canonical) (h : b.Rounds x) :
    ∃ e m, HasUnit x e ∧ RoundsTo (x / 2 ^ e) m ∧ (e + 1074).toNat * leadingBit + m = b.code := by
  by_cases hbelow : b.Narrow ∧ x / 2 ^ b.exponent < leadingBit
  case pos =>
    obtain ⟨hnarrow, hlt⟩ := hbelow
    obtain ⟨hunit, hround⟩ := h.hasUnit_below hnarrow hlt
    refine ⟨_, _, hunit, hround, ?_⟩
    obtain ⟨hm, he⟩ := hnarrow
    rw [code, hm]
    unfold leadingBit
    omega
  case neg =>
    obtain ⟨hunit, hround⟩ := h.hasUnit hb
      fun hnarrow => le_of_not_gt fun hlt => hbelow ⟨hnarrow, hlt⟩
    exact ⟨_, _, hunit, hround, rfl⟩

theorem ofCode_code (hb : b.Canonical) : ofCode b.code = b := by
  obtain ⟨hmantissa, hexponent, hleading⟩ := hb
  obtain ⟨m, e⟩ := b
  unfold ofCode code leadingBit at *
  dsimp only at *
  split
  case isTrue => congr 1 <;> omega
  case isFalse => congr 1 <;> omega

/-- A number rounds to the digits that it has in its unit. -/
theorem rounds_of_digits {e : ℤ} {m : Nat} (hx : 0 ≤ x) (hunit : HasUnit x e)
    (hround : RoundsTo (x / 2 ^ e) m) (hlt : m < 2 * leadingBit) :
    Canonical ⟨m, e⟩ ∧ Rounds ⟨m, e⟩ x := by
  obtain ⟨hleast, hdigits, hleading⟩ := hunit
  obtain ⟨hlow, hhigh, hends⟩ := hround
  refine ⟨⟨hlt, hleast, hleading.imp_right fun h => ?_⟩, ?_⟩
  · have : (leadingBit : ℚ) < m + 1 := by linarith
    exact Nat.le_of_lt_succ (by exact_mod_cast this)
  rw [rounds_iff_div, cast_highEnd]
  dsimp only
  have hz : 0 ≤ x / 2 ^ e := div_nonneg hx (by positivity)
  by_cases hnarrow : Narrow ⟨m, e⟩
  · have hleading' := hleading.resolve_left (ne_of_gt hnarrow.2)
    rw [hnarrow.cast_lowEnd]
    refine ⟨by linarith, by linarith, ?_⟩
    rintro (h | h)
    · linarith
    · exact hends (.inr (by linarith))
  · rcases Nat.eq_zero_or_pos m with rfl | hm
    · rw [lowEnd, if_neg hnarrow]
      exact ⟨by norm_num; exact hz, by linarith, fun _ => rfl⟩
    · have hlowEnd : (lowEnd ⟨m, e⟩ : ℚ) = 4 * m - 2 := by
        rw [lowEnd, if_neg hnarrow, Nat.cast_sub (by dsimp only; omega)]
        norm_num
      rw [hlowEnd]
      refine ⟨by linarith, by linarith, ?_⟩
      rintro (h | h)
      · exact hends (.inl (by linarith))
      · exact hends (.inr (by linarith))

/-- A number that rounds to one digit more than there are rounds to a power of two. -/
theorem rounds_of_carry {e : ℤ} (hunit : HasUnit x e)
    (hround : RoundsTo (x / 2 ^ e) (2 * leadingBit)) :
    Canonical ⟨leadingBit, e + 1⟩ ∧ Rounds ⟨leadingBit, e + 1⟩ x := by
  obtain ⟨hleast, hdigits, -⟩ := hunit
  obtain ⟨hlow, -, -⟩ := hround
  have hnarrow : Narrow ⟨leadingBit, e + 1⟩ := ⟨rfl, by dsimp only; omega⟩
  have hdoubled : 4 * (x / 2 ^ (e + 1)) = 2 * (x / 2 ^ e) := by
    rw [zpow_add_one₀ two_ne_zero]
    field_simp
    ring
  rw [Nat.cast_mul, Nat.cast_ofNat] at hlow
  refine ⟨⟨by dsimp only; decide, by dsimp only; omega, .inr le_rfl⟩, ?_⟩
  rw [rounds_iff_div, cast_highEnd, hnarrow.cast_lowEnd]
  dsimp only
  rw [hdoubled]
  exact ⟨by linarith, by linarith, fun _ => rfl⟩

/-- A number rounds to the magnitude with the code that it has in its unit. -/
theorem rounds_of_unit {e : ℤ} {m : Nat} (hx : 0 ≤ x) (hunit : HasUnit x e)
    (hround : RoundsTo (x / 2 ^ e) m) :
    (ofCode ((e + 1074).toNat * leadingBit + m)).Rounds x := by
  rcases Nat.lt_or_eq_of_le (hunit.le_of_roundsTo hround) with hlt | rfl
  · obtain ⟨hb, hrounds⟩ := rounds_of_digits hx hunit hround hlt
    change (ofCode (code ⟨m, e⟩)).Rounds x
    rwa [ofCode_code hb]
  · obtain ⟨hb, hrounds⟩ := rounds_of_carry hunit hround
    have hleast := hunit.least
    have hcode : (e + 1074).toNat * leadingBit + 2 * leadingBit = code ⟨leadingBit, e + 1⟩ := by
      unfold code leadingBit
      dsimp only
      omega
    rwa [hcode, ofCode_code hb]

end Binary

/-- A fraction that rounds to a magnitude has its code. -/
theorem nearestCode_eq {num den : Nat} {b : Binary} (hden : den ≠ 0) (hb : b.Canonical)
    (hcode : b.code < infiniteCode) (h : b.Rounds (num / den)) : nearestCode num den = b.code := by
  obtain ⟨e, m, hunit, hround, heq⟩ := nearestCode_spec num hden
  obtain ⟨e', m', hunit', hround', hcode'⟩ := h.exists_unit hb
  obtain rfl := hunit.unique hunit'
  obtain rfl := hround.unique hround'
  rw [heq, hcode']
  exact min_eq_left hcode.le

/-- A fraction rounds to the magnitude with its code, if that is not too large. -/
theorem rounds_nearestCode {num den : Nat} (hden : den ≠ 0)
    (hcode : nearestCode num den < infiniteCode) :
    (Binary.ofCode (nearestCode num den)).Rounds (num / den) := by
  obtain ⟨e, m, hunit, hround, heq⟩ := nearestCode_spec num hden
  have hmin : nearestCode num den = (e + 1074).toNat * leadingBit + m := by omega
  rw [hmin]
  exact Binary.rounds_of_unit (div_nonneg (Nat.cast_nonneg _) (Nat.cast_nonneg _)) hunit hround

/-- Numbers of up to 1023 binary digits before the point have a finite code. -/
theorem nearestCode_lt {num den : Nat} (hden : den ≠ 0) (h : (num / den : ℚ) < 2 ^ 1023) :
    nearestCode num den < infiniteCode := by
  obtain ⟨e, m, hunit, hround, heq⟩ := nearestCode_spec num hden
  have hm := hunit.le_of_roundsTo hround
  have he : e ≤ 970 := by
    rcases hunit.leading with rfl | hleading
    · decide
    · have hlt : (2 : ℚ) ^ (e + 52) < 2 ^ (1023 : ℤ) :=
        (le_div_zpow_iff.1 hleading).trans_lt (h.trans_eq (zpow_natCast 2 1023).symm)
      have := (zpow_lt_zpow_iff_right₀ one_lt_two).1 hlt
      omega
  rw [heq]
  unfold leadingBit infiniteCode at *
  omega

/-- Of which power of ten a decimal is, by the count of its digits. -/
theorem decimal_bounds {digits : Nat} (h : digits ≠ 0) (exponent : ℤ) :
    (10 : ℚ) ^ ((toString digits).length + exponent - 1) ≤ digits * 10 ^ exponent ∧
      (digits * 10 ^ exponent : ℚ) < 10 ^ ((toString digits).length + exponent) := by
  change (10 : ℚ) ^ (digits.repr.length + exponent - 1) ≤ _ ∧
    _ < (10 : ℚ) ^ (digits.repr.length + exponent)
  have hpos : (0 : ℚ) < 10 ^ exponent := by positivity
  have hlength : 0 < digits.repr.length := Nat.length_repr_pos
  have hhigh : digits < 10 ^ digits.repr.length := (Nat.length_repr_le_iff hlength).1 (Nat.le_refl _)
  have hlow : 10 ^ (digits.repr.length - 1) ≤ digits := by
    by_contra hlt
    rcases Nat.eq_zero_or_pos (digits.repr.length - 1) with hzero | hone
    · rw [hzero] at hlt
      omega
    · have := (Nat.length_repr_le_iff hone).2 (Nat.lt_of_not_le hlt)
      omega
  constructor
  · rw [show (digits.repr.length : ℤ) + exponent - 1 =
        (digits.repr.length - 1 : Nat) + exponent by omega, zpow_add₀ (by norm_num), zpow_natCast]
    exact mul_le_mul_of_nonneg_right (by exact_mod_cast hlow) hpos.le
  · rw [zpow_add₀ (by norm_num), zpow_natCast]
    exact mul_lt_mul_of_pos_right (by exact_mod_cast hhigh) hpos

/-- A decimal of more than 400 places is beyond all doubles. -/
theorem two_pow_le_ten_pow : (2 : ℚ) ^ 1075 ≤ 10 ^ 400 :=
  calc (2 : ℚ) ^ 1075 ≤ 2 ^ (3 * 400) := pow_le_pow_right₀ one_le_two (by norm_num)
    _ = (2 ^ 3) ^ 400 := pow_mul _ _ _
    _ ≤ 10 ^ 400 := pow_le_pow_left₀ (by norm_num) (by norm_num) _

namespace Binary.Canonical

variable {b : Binary} {x : ℚ}

/-- What rounds to a finite magnitude is less than the power of two behind all of them. -/
theorem lt_of_rounds (hb : b.Canonical) (hcode : b.code < infiniteCode) (h : b.Rounds x) :
    x < 2 ^ 1024 := by
  have hexponent : b.exponent ≤ 971 := by
    have := hb.leading
    unfold Binary.code infiniteCode leadingBit at *
    omega
  have hend : b.highEnd < 8 * leadingBit := by
    have := hb.mantissa
    unfold Binary.highEnd leadingBit at *
    omega
  calc x ≤ b.highEnd * 2 ^ (b.exponent - 2) := h.high
    _ < (8 * leadingBit : Nat) * 2 ^ (b.exponent - 2) :=
      mul_lt_mul_of_pos_right (Nat.cast_lt.2 hend) (by positivity)
    _ ≤ (8 * leadingBit : Nat) * 2 ^ (969 : ℤ) :=
      mul_le_mul_of_nonneg_left (zpow_le_zpow_right₀ one_le_two (by omega)) (Nat.cast_nonneg _)
    _ = 2 ^ (55 + 969 : ℤ) := by
      rw [zpow_add₀ two_ne_zero]
      norm_num [leadingBit]
    _ = 2 ^ 1024 := zpow_natCast 2 1024

/-- What rounds to a magnitude other than zero is at least half the least one. -/
theorem le_of_rounds (hb : b.Canonical) (hcode : b.code ≠ 0) (h : b.Rounds x) :
    2 ^ (-1075 : ℤ) ≤ x := by
  have hend : 2 ≤ b.lowEnd := by
    have := hb.leading
    have := hb.exponent
    unfold Binary.lowEnd Binary.code leadingBit at *
    split <;> omega
  have hexponent := hb.exponent
  calc (2 : ℚ) ^ (-1075 : ℤ) = (2 : Nat) * 2 ^ (-1074 - 2 : ℤ) :=
      (zpow_one_add₀ two_ne_zero (-1074 - 2)).trans rfl
    _ ≤ b.lowEnd * 2 ^ (-1074 - 2 : ℤ) :=
      mul_le_mul_of_nonneg_right (Nat.cast_le.2 hend) (by positivity)
    _ ≤ b.lowEnd * 2 ^ (b.exponent - 2) :=
      mul_le_mul_of_nonneg_left (zpow_le_zpow_right₀ one_le_two (by omega)) (Nat.cast_nonneg _)
    _ ≤ x := h.low

end Binary.Canonical

/-- A decimal that rounds to a finite magnitude reads as the double with its code. -/
theorem ofDecimal_eq {b : Binary} (hb : b.Canonical) (hcode : b.code < infiniteCode) {digits : Nat}
    {exponent : ℤ} (h : b.Rounds (digits * 10 ^ exponent)) (negative : Bool) :
    ofDecimal negative digits exponent = ofCode negative b.code := by
  have hzero (hdigits : digits = 0) : b.code = 0 := by
    by_contra hne
    have hle := hb.le_of_rounds hne h
    rw [hdigits, Nat.cast_zero, zero_mul] at hle
    exact absurd hle (not_le.2 (by positivity))
  -- What is cut off for its length does not round to `b`, unless both are zero.
  unfold ofDecimal
  dsimp only
  split
  case isTrue hlarge =>
    split
    case isTrue hdigits => rw [hzero hdigits]
    case isFalse hdigits =>
      have hlt := (decimal_bounds hdigits exponent).1.trans_lt (hb.lt_of_rounds hcode h)
      have hle : (10 : ℚ) ^ (400 : ℤ) ≤ 10 ^ ((toString digits).length + exponent - 1) :=
        zpow_le_zpow_right₀ (by norm_num) (by omega)
      have hpow : (2 : ℚ) ^ 1024 ≤ 2 ^ 1075 := pow_le_pow_right₀ one_le_two (by decide)
      exact absurd (hlt.trans_le (hpow.trans two_pow_le_ten_pow)) (not_lt.2 hle)
  case isFalse =>
    split
    case isTrue hsmall =>
      by_cases hcode' : b.code = 0
      · rw [hcode']
      · have hdigits : digits ≠ 0 := mt hzero hcode'
        have hlt := (hb.le_of_rounds hcode' h).trans_lt (decimal_bounds hdigits exponent).2
        have hle : (10 : ℚ) ^ ((toString digits).length + exponent) ≤ 10 ^ (-400 : ℤ) :=
          zpow_le_zpow_right₀ (by norm_num) (by omega)
        have hpow : (10 : ℚ) ^ (-400 : ℤ) ≤ 2 ^ (-1075 : ℤ) := by
          rw [zpow_neg, zpow_neg]
          exact inv_anti₀ (by positivity) (mod_cast two_pow_le_ten_pow)
        exact absurd (hlt.trans_le (hle.trans hpow)) (lt_irrefl _)
    case isFalse =>
      have hvalue : (digits * 10 ^ exponent : ℚ) =
          (digits * pow10 exponent.toNat : Nat) / (pow10 (-exponent).toNat : Nat) := by
        rw [Nat.cast_mul, cast_pow10, cast_pow10, zpow_eq_div (by norm_num), mul_div_assoc]
      rw [hvalue] at h
      rw [nearest, nearestCode_eq (pow10_pos _).ne' hb hcode h]

end SheetTemplate.Number
