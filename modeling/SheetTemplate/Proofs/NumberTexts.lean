import Mathlib.Order.Compare
import SheetTemplate.Number.Reading
import SheetTemplate.Proofs.FloatBits
import SheetTemplate.Proofs.Rounding
import SheetTemplate.Proofs.Spelling

namespace SheetTemplate.Number

def Decimal.value (d : Decimal) : ℚ := d.digits * 10 ^ d.exponent

theorem compareScaled_eq (a : Nat) (i : ℤ) (n : Nat) (j : ℤ) :
    compareScaled a i n j = compare (a * 10 ^ i : ℚ) (n * 2 ^ j) := by
  have hpos : (0 : ℚ) < 10 ^ (-i).toNat * 2 ^ (-j).toNat := by positivity
  have hleft : (a * 10 ^ i : ℚ) * (10 ^ (-i).toNat * 2 ^ (-j).toNat) =
      (a * pow10 i.toNat * pow2 (-j).toNat : Nat) := by
    push_cast
    rw [cast_pow10, cast_pow2, zpow_eq_div (by norm_num) i]
    field_simp
  have hright : (n * 2 ^ j : ℚ) * (10 ^ (-i).toNat * 2 ^ (-j).toNat) =
      (n * pow2 j.toNat * pow10 (-i).toNat : Nat) := by
    push_cast
    rw [cast_pow10, cast_pow2, zpow_eq_div (by norm_num) j]
    field_simp
  rw [← cmp_eq_compare, ← cmp_mul_pos_right hpos, hleft, hright, Nat.strictMono_cast.cmp_map_eq,
    cmp_eq_compare]
  rfl

theorem Binary.rounds_iff {b : Binary} {x : ℚ} :
    b.Rounds x ↔
      (b.lowEnd * 2 ^ (b.exponent - 2) < x ∨
        b.mantissa % 2 = 0 ∧ x = b.lowEnd * 2 ^ (b.exponent - 2)) ∧
      (x < b.highEnd * 2 ^ (b.exponent - 2) ∨
        b.mantissa % 2 = 0 ∧ x = b.highEnd * 2 ^ (b.exponent - 2)) := by
  constructor
  · rintro ⟨hlow, hhigh, hends⟩
    exact ⟨hlow.lt_or_eq.imp_right fun h => ⟨hends (.inl h.symm), h.symm⟩,
      hhigh.lt_or_eq.imp_right fun h => ⟨hends (.inr h), h⟩⟩
  · rintro ⟨hlow, hhigh⟩
    refine ⟨?_, ?_, ?_⟩
    · exact hlow.elim le_of_lt fun h => h.2.ge
    · exact hhigh.elim le_of_lt fun h => h.2.le
    · rintro (h | h)
      · exact (hlow.resolve_left fun hlt => hlt.ne' h).1
      · exact (hhigh.resolve_left fun hlt => hlt.ne h).1

theorem readsBack_iff {n : Nat} {d : Decimal} :
    readsBack n d = true ↔ (Binary.ofCode n).Rounds d.value := by
  unfold readsBack
  dsimp only
  generalize Binary.ofCode n = b
  have hlow : (if (b.mantissa == leadingBit && decide (b.exponent > -1074)) = true
      then 4 * b.mantissa - 1 else 4 * b.mantissa - 2) = b.lowEnd := by
    refine if_congr ?_ rfl rfl
    rw [Bool.and_eq_true, beq_iff_eq, decide_eq_true_eq]
    rfl
  rw [hlow, compareScaled_eq, compareScaled_eq, Binary.rounds_iff]
  simp only [Bool.and_eq_true, Bool.or_eq_true, beq_iff_eq, compare_gt_iff_gt, compare_lt_iff_lt,
    compare_eq_iff_eq]
  rfl

theorem Binary.rounds_value (b : Binary) : b.Rounds b.value := by
  have hpos : (0 : ℚ) < 2 ^ (b.exponent - 2) := by positivity
  have hvalue : b.value = (4 * b.mantissa : Nat) * 2 ^ (b.exponent - 2) := by
    rw [Binary.value, zpow_sub₀ two_ne_zero]
    push_cast
    ring
  rw [hvalue]
  refine ⟨?_, ?_, ?_⟩
  · refine mul_le_mul_of_nonneg_right (Nat.cast_le.2 ?_) hpos.le
    unfold Binary.lowEnd
    split <;> omega
  · exact mul_le_mul_of_nonneg_right (Nat.cast_le.2 (Nat.le_add_right _ _)) hpos.le
  · rw [mul_left_inj' hpos.ne', mul_left_inj' hpos.ne', Nat.cast_inj, Nat.cast_inj]
    unfold Binary.lowEnd Binary.highEnd
    split <;> omega

theorem value_stripZeros (fuel : Nat) (d : Decimal) : (stripZeros fuel d).value = d.value := by
  induction fuel generalizing d with
  | zero => rfl
  | succ fuel ih =>
    rw [stripZeros]
    split
    case isFalse => rfl
    case isTrue h =>
      rw [Bool.and_eq_true, beq_iff_eq] at h
      have hdigits : (d.digits : ℚ) = (d.digits / 10 : Nat) * 10 := by
        exact_mod_cast (Nat.div_mul_cancel (Nat.dvd_of_mod_eq_zero h.1)).symm
      rw [ih, Decimal.value, Decimal.value, hdigits, zpow_add_one₀ (by norm_num)]
      ring

theorem Binary.value_exact (b : Binary) : b.exact.value = b.value := by
  unfold Binary.exact Decimal.value Binary.value
  split
  case isTrue h =>
    rw [zpow_zero, mul_one, Nat.cast_mul, cast_pow2, ← zpow_natCast, Int.toNat_of_nonneg h]
  case isFalse h =>
    obtain ⟨k, hk⟩ : ∃ k : Nat, b.exponent = -k := ⟨(-b.exponent).toNat, by omega⟩
    have hfive : Nat.pow 5 k = 5 ^ k := rfl
    rw [hk, neg_neg, Int.toNat_natCast, zpow_neg, zpow_neg, zpow_natCast, zpow_natCast, hfive,
      Nat.cast_mul, Nat.cast_pow, show (10 : ℚ) = 5 * 2 by norm_num, mul_pow]
    push_cast
    field_simp

theorem readsBack_of_shortestWith {tie : Tie} {n count : Nat} {scale : ℤ} {d : Decimal}
    (h : shortestWith tie n scale count = some d) : readsBack n d = true := by
  unfold shortestWith at h
  dsimp only at h
  split at h
  case h_1 hlow _ => exact Option.some.inj h ▸ hlow
  case h_2 _ hhigh => exact Option.some.inj h ▸ hhigh
  case h_3 => cases h
  case h_4 hlow hhigh =>
    split at h
    case h_1 => exact Option.some.inj h ▸ hlow
    case h_2 => exact Option.some.inj h ▸ hhigh
    case h_3 =>
      split at h
      · exact Option.some.inj h ▸ hlow
      · exact Option.some.inj h ▸ hhigh

/-- The shortest decimal of a double is among the numbers that round to it. -/
theorem rounds_shortest (tie : Tie) (n : Nat) : (Binary.ofCode n).Rounds (shortest tie n).value := by
  unfold shortest
  split
  case isTrue h =>
    have hzero : (⟨0, 0⟩ : Decimal).value = (Binary.ofCode n).value := by
      rw [h, Decimal.value, Binary.value, Nat.cast_zero, zero_mul]
      exact (zero_mul _).symm
    rw [hzero]
    exact (Binary.ofCode n).rounds_value
  case isFalse =>
    dsimp only
    split
    case h_1 d hd =>
      obtain ⟨i, -, hi⟩ := List.exists_of_findSome?_eq_some hd
      rw [value_stripZeros]
      exact readsBack_iff.1 (readsBack_of_shortestWith hi)
    case h_2 =>
      rw [Binary.value_exact]
      exact Binary.rounds_value _

theorem mem_signed {x : Float} {s : List Char} {c : Char} (h : c ∈ (signed x s).toList) :
    c = '-' ∨ c ∈ s := by
  unfold signed at h
  rw [String.toList_ofList] at h
  split at h
  case isTrue => exact List.mem_cons.1 h
  case isFalse => exact .inr h

theorem mem_pointed {s : List Char} {places : Nat} {c : Char} (h : c ∈ pointed s places) :
    c = '0' ∨ c = '.' ∨ c ∈ s := by
  have hpadded {k : Nat} (hc : c ∈ List.replicate k '0' ++ s) : c = '0' ∨ c ∈ s :=
    (List.mem_append.1 hc).imp List.eq_of_mem_replicate id
  unfold pointed at h
  split at h
  case isTrue => exact (hpadded (List.mem_of_mem_take h)).imp id .inr
  case isFalse =>
    rcases List.mem_append.1 h with h | h
    · exact (hpadded (List.mem_of_mem_take h)).imp id .inr
    · rcases List.mem_cons.1 h with rfl | h
      · exact .inr (.inl rfl)
      · exact (hpadded (List.mem_of_mem_drop h)).imp id .inr

theorem digitsValue_zeros (k : Nat) (s : List Char) :
    digitsValue (List.replicate k '0' ++ s) = digitsValue s := by
  induction k with
  | zero => rfl
  | succ k ih =>
    rw [← ih]
    rfl

structure Pointed (n places : Nat) (whole fraction : List Char) : Prop where
  whole_ne_nil : whole ≠ []
  whole_digits : ∀ c ∈ whole, c.isDigit = true
  fraction_digits : ∀ c ∈ fraction, c.isDigit = true
  length_fraction : fraction.length = places
  value : digitsValue (whole ++ fraction) = n

theorem exists_pointed (n places : Nat) :
    ∃ whole fraction, Pointed n places whole fraction ∧
      pointed (natDigits n) places = whole ++ if places = 0 then [] else '.' :: fraction := by
  generalize hpadded : List.replicate (places + 1 - (natDigits n).length) '0' ++ natDigits n = padded
  have hdigits : ∀ c ∈ padded, c.isDigit = true := by
    rw [← hpadded]
    intro c hc
    rcases List.mem_append.1 hc with hc | hc
    · rw [List.eq_of_mem_replicate hc]
      rfl
    · exact isDigit_of_mem_natDigits hc
  have hlength : places + 1 ≤ padded.length := by
    rw [← hpadded, List.length_append, List.length_replicate]
    omega
  refine ⟨padded.take (padded.length - places), padded.drop (padded.length - places), ⟨?_, ?_, ?_,
    ?_, ?_⟩, ?_⟩
  · exact List.ne_nil_of_length_pos (by rw [List.length_take]; omega)
  · exact fun c hc => hdigits c (List.mem_of_mem_take hc)
  · exact fun c hc => hdigits c (List.mem_of_mem_drop hc)
  · rw [List.length_drop, Nat.sub_sub_self (by omega)]
  · rw [List.take_append_drop, ← hpadded, digitsValue_zeros, digitsValue_natDigits]
  · rw [pointed, hpadded]
    split <;> simp

/-- The characters of digits with a point are digits and the point. -/
theorem isDigit_of_mem_pointed {n places : Nat} {c : Char} (h : c ∈ pointed (natDigits n) places) :
    c = '.' ∨ c.isDigit := by
  rcases mem_pointed h with rfl | rfl | h
  · exact .inr (by decide)
  · exact .inl rfl
  · exact .inr (isDigit_of_mem_natDigits h)

theorem pointed_ne_nil (n places : Nat) : pointed (natDigits n) places ≠ [] := by
  obtain ⟨whole, fraction, h, hpointed⟩ := exists_pointed n places
  rw [hpointed]
  exact List.append_ne_nil_of_left_ne_nil h.whole_ne_nil _

theorem mem_plain {d : Decimal} {c : Char} (h : c ∈ d.plain) : c = '.' ∨ c.isDigit := by
  unfold Decimal.plain at h
  split at h
  case isTrue => exact .inr (isDigit_of_mem_natDigits h)
  case isFalse => exact isDigit_of_mem_pointed h

theorem plain_ne_nil (d : Decimal) : d.plain ≠ [] := by
  unfold Decimal.plain
  split
  case isTrue => exact natDigits_ne_nil _
  case isFalse => exact pointed_ne_nil _ _

section

variable {whole fraction : List Char} (hwhole : ∀ c ∈ whole, c.isDigit = true) (hne : whole ≠ [])

include hwhole hne

theorem readMagnitude?_digits (negative : Bool) :
    readMagnitude? negative whole = some (ofDecimal negative (digitsValue whole) 0) := by
  unfold readMagnitude?
  rw [List.takeWhile_eq_self_iff.2 hwhole, List.dropWhile_eq_nil_iff.2 hwhole]
  dsimp only
  rw [if_neg (by simp [hne]), List.append_nil]
  rfl

theorem readMagnitude?_point (hfraction : ∀ c ∈ fraction, c.isDigit = true) (negative : Bool) :
    readMagnitude? negative (whole ++ '.' :: fraction) =
      some (ofDecimal negative (digitsValue (whole ++ fraction)) (-fraction.length)) := by
  unfold readMagnitude?
  have htake : (whole ++ '.' :: fraction).takeWhile Char.isDigit = whole := by
    rw [List.takeWhile_append_of_pos hwhole]
    exact List.append_nil _
  have hdrop : (whole ++ '.' :: fraction).dropWhile Char.isDigit = '.' :: fraction := by
    rw [List.dropWhile_append_of_pos hwhole]
    rfl
  rw [htake, hdrop]
  change (if whole.isEmpty && (fraction.takeWhile Char.isDigit).isEmpty then none
    else (readExponent? (fraction.dropWhile Char.isDigit)).bind fun e =>
      some (ofDecimal negative (digitsValue (whole ++ fraction.takeWhile Char.isDigit))
        (e - (fraction.takeWhile Char.isDigit).length))) = _
  rw [List.takeWhile_eq_self_iff.2 hfraction, List.dropWhile_eq_nil_iff.2 hfraction,
    if_neg (by simp [hne])]
  change some (ofDecimal negative _ (0 - (fraction.length : ℤ))) = _
  rw [zero_sub]

end

/-- Digits with a point among them are read as the digits and the place of the point. -/
theorem readMagnitude?_pointed (negative : Bool) (n places : Nat) :
    readMagnitude? negative (pointed (natDigits n) places) =
      some (ofDecimal negative n (-places)) := by
  obtain ⟨whole, fraction, h, hpointed⟩ := exists_pointed n places
  rw [hpointed]
  split
  case isTrue hzero =>
    have hfraction : fraction = [] := List.length_eq_zero_iff.1 (h.length_fraction.trans hzero)
    have hvalue := h.value
    rw [hfraction, List.append_nil] at hvalue
    rw [List.append_nil, readMagnitude?_digits h.whole_digits h.whole_ne_nil, hvalue, hzero]
    rfl
  case isFalse =>
    rw [readMagnitude?_point h.whole_digits h.whole_ne_nil h.fraction_digits, h.value,
      h.length_fraction]

theorem readMagnitude?_plain (negative : Bool) (d : Decimal) :
    ∃ digits exponent, readMagnitude? negative d.plain = some (ofDecimal negative digits exponent) ∧
      digits * 10 ^ exponent = d.value := by
  unfold Decimal.plain
  split
  case isTrue h =>
    refine ⟨_, 0,
      readMagnitude?_digits (fun _ => isDigit_of_mem_natDigits) (natDigits_ne_nil _) _, ?_⟩
    rw [digitsValue_natDigits, Nat.cast_mul, cast_pow10, zpow_zero, mul_one, ← zpow_natCast,
      Int.toNat_of_nonneg h, Decimal.value]
  case isFalse h =>
    refine ⟨_, _, readMagnitude?_pointed _ _ _, ?_⟩
    rw [Int.toNat_of_nonneg (by omega), neg_neg, Decimal.value]

/-- The text of a finite double is read as the double. -/
theorem readMagnitude?_shortest {x : Float} (h : isFinite x = true) (tie : Tie) :
    readMagnitude? (isNegative x) (shortest tie (code x)).plain = some x := by
  obtain ⟨digits, exponent, hread, hvalue⟩ :=
    readMagnitude?_plain (isNegative x) (shortest tie (code x))
  have hrounds := rounds_shortest tie (code x)
  have hcode := Binary.code_ofCode (code x)
  rw [← hvalue] at hrounds
  have hfinite : (Binary.ofCode (code x)).code < infiniteCode := hcode.symm ▸ of_decide_eq_true h
  rw [hread, ofDecimal_eq (Binary.canonical_ofCode _) hfinite hrounds, hcode, ofCode_code]

/-- A text that begins as the digits of a number do is no name of a number. -/
theorem readSigned?_of_head {c : Char} (hc : c = '.' ∨ c.isDigit) (negative : Bool) (s : List Char) :
    readSigned? negative (c :: s) = readMagnitude? negative (c :: s) := by
  have hlower : c.toLower = c := by
    rcases hc with rfl | hdigit
    · rfl
    · exact toLower_of_isDigit hdigit
  have hnames : c ≠ 'i' ∧ c ≠ 'n' := by
    constructor <;> rintro rfl <;> rcases hc with hc | hc <;> cases hc
  unfold readSigned?
  rw [List.map_cons, hlower]
  split
  case h_1 h => exact absurd (List.cons.inj h).1 hnames.1
  case h_2 h => exact absurd (List.cons.inj h).1 hnames.1
  case h_3 h => exact absurd (List.cons.inj h).1 hnames.2
  case h_4 => rfl

theorem readFloat?_of_head {c : Char} (hc : c = '.' ∨ c.isDigit) (s : List Char) :
    readFloat? (c :: s) = readMagnitude? false (c :: s) := by
  have hsigns : c ≠ '-' ∧ c ≠ '+' := by
    constructor <;> rintro rfl <;> rcases hc with hc | hc <;> cases hc
  rw [← readSigned?_of_head hc]
  unfold readFloat?
  split
  case h_1 h => exact absurd (List.cons.inj h).1 hsigns.1
  case h_2 h => exact absurd (List.cons.inj h).1 hsigns.2
  case h_3 => rfl

/-- A signed number is read as the number without the sign is. -/
theorem readFloat?_signed {s : List Char} (hne : s ≠ []) (hs : ∀ c ∈ s, c = '.' ∨ c.isDigit)
    (x : Float) : readFloat? (signed x s).toList = readMagnitude? (isNegative x) s := by
  obtain ⟨c, t, rfl⟩ := List.exists_cons_of_ne_nil hne
  have hc : c = '.' ∨ c.isDigit := hs c List.mem_cons_self
  rw [signed, String.toList_ofList]
  split
  case isTrue hnegative =>
    rw [hnegative]
    exact readSigned?_of_head hc true t
  case isFalse hpositive =>
    rw [Bool.eq_false_of_not_eq_true hpositive]
    exact readFloat?_of_head hc t

/-- Every double is read back from its text. -/
theorem readFloat?_plainText (x : Float) : readFloat? (plainText x).toList = some x := by
  unfold plainText specialText
  split
  case isTrue hnan =>
    rw [eq_nan hnan]
    rfl
  case isFalse hnumber =>
    split
    case isTrue hfinite =>
      rw [Option.getD_none, readFloat?_signed (plain_ne_nil _) (fun _ => mem_plain),
        readMagnitude?_shortest hfinite]
    case isFalse hinfinite =>
      have hcode : code x = infiniteCode :=
        Nat.le_antisymm (Nat.le_of_not_lt (of_decide_eq_false (Bool.eq_false_of_not_eq_true hnumber)))
          (Nat.le_of_not_lt (of_decide_eq_false (Bool.eq_false_of_not_eq_true hinfinite)))
      have hx : infinity (isNegative x) = x := by
        rw [infinity, ← hcode, ofCode_code]
      rw [Option.getD_some]
      cases hsign : isNegative x <;> rw [hsign] at hx
      case false =>
        have hread : readFloat? "inf".toList = some (infinity false) := rfl
        exact hread.trans (congrArg some hx)
      case true =>
        have hread : readFloat? "-inf".toList = some (infinity true) := rfl
        exact hread.trans (congrArg some hx)

end SheetTemplate.Number
