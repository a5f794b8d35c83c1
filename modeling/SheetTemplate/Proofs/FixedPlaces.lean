import SheetTemplate.Proofs.NumberTexts

namespace SheetTemplate.Number

variable {x : Float} {places : Nat}

theorem specialText_eq_none (h : isFinite x = true) : specialText x = none := by
  have hnumber : isNan x = false :=
    decide_eq_false (Nat.lt_asymm (of_decide_eq_true h))
  rw [specialText, hnumber, h]
  rfl

theorem placesText_of_finite (h : isFinite x = true) (places : Nat) :
    placesText places x =
      signed x (pointed (natDigits (inPlaces (magnitude x) places)) places) := by
  rw [placesText, specialText_eq_none h, Option.getD_none]

/-- The places of a magnitude are those of its exact value. -/
theorem roundsTo_inPlaces (b : Binary) (places : Nat) :
    RoundsTo (b.value * 10 ^ places) (inPlaces b places) := by
  have hquotient : b.value * 10 ^ places =
      (b.mantissa * pow2 b.exponent.toNat * pow10 places : Nat) / (pow2 (-b.exponent).toNat : Nat) := by
    rw [Binary.value, zpow_eq_div two_ne_zero]
    push_cast
    rw [cast_pow2, cast_pow2, cast_pow10]
    ring
  rw [hquotient]
  exact roundsTo_roundDiv (pow2_pos _)

/-- The text is a sign, digits, and as many digits behind a point as there are places; together the
digits spell the number rounded to these places. -/
def Shows (places : Nat) (x : Float) (text : String) : Prop :=
  ∃ n whole fraction, RoundsTo ((magnitude x).value * 10 ^ places) n ∧
    Pointed n places whole fraction ∧
      text = signed x (whole ++ if places = 0 then [] else '.' :: fraction)

theorem shows_placesText (h : isFinite x = true) (places : Nat) :
    Shows places x (placesText places x) := by
  obtain ⟨whole, fraction, hpointed, htext⟩ := exists_pointed (inPlaces (magnitude x) places) places
  exact ⟨_, whole, fraction, roundsTo_inPlaces _ _, hpointed,
    by rw [placesText_of_finite h, htext]⟩

end SheetTemplate.Number
