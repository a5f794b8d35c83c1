import SheetTemplate.Proofs.ReferenceTexts
import SheetTemplate.Proofs.SpecGrammar

namespace SheetTemplate.FormatSpec

open Number

variable {s digits rest : List Char} {letter : Char} {n : Int} {f : FormatSpec} {kind : FormatKind}

def withoutZeros (digits : List Char) : List Char :=
  if digits.all (· == '0') then digits.take 1 else digits.dropWhile (· == '0')

def shortened : List Char → List Char
  | '.' :: s => '.' :: (withoutZeros (s.takeWhile Char.isDigit) ++ s.dropWhile Char.isDigit)
  | s => withoutZeros (s.takeWhile Char.isDigit) ++ s.dropWhile Char.isDigit

theorem withoutZeros_eq (hne : digits ≠ []) (h : ∀ c ∈ digits, c.isDigit) :
    withoutZeros digits = natDigits (digitsValue digits) := by
  have hrest := dropWhile_zeros h
  by_cases hzero : digitsValue digits = 0
  · rw [if_pos hzero, List.dropWhile_eq_nil_iff] at hrest
    obtain ⟨c, tail, rfl⟩ := List.exists_cons_of_ne_nil hne
    have hc : c = '0' := by simpa using hrest c (by simp)
    rw [withoutZeros, if_pos (List.all_eq_true.2 hrest), hzero, hc]
    rfl
  · rw [if_neg hzero] at hrest
    have hall : ¬ digits.all (· == '0') = true := by
      rw [List.all_eq_true, ← List.dropWhile_eq_nil_iff, hrest]
      exact natDigits_ne_nil _
    rw [withoutZeros, if_neg hall, hrest]

theorem Precise.isDigit (h : Precise digits n) : ∀ c ∈ digits, c.isDigit := by
  cases h with
  | left_open => simp
  | number _ isDigit _ => exact isDigit

theorem Precise.precisionDigits_eq (h : Precise digits n) :
    precisionDigits ⟨kind, n⟩ = withoutZeros digits := by
  cases h with
  | left_open => rfl
  | number ne_nil isDigit _ =>
    rw [withoutZeros_eq ne_nil isDigit]
    exact if_neg (Int.not_lt.2 (Int.natCast_nonneg _))

theorem Precise.withoutZeros (h : Precise digits n) : Precise (withoutZeros digits) n := by
  cases h with
  | left_open => exact .left_open
  | number ne_nil isDigit le =>
    rw [withoutZeros_eq ne_nil isDigit]
    have hprecise := Precise.number (natDigits_ne_nil (digitsValue digits))
      (fun _ => isDigit_of_mem_natDigits) ((digitsValue_natDigits _).le.trans le)
    rwa [digitsValue_natDigits] at hprecise

theorem shortened_point (h : ∀ c ∈ digits, c.isDigit) (hrest : ¬ rest.head?.any Char.isDigit) :
    shortened ('.' :: (digits ++ rest)) = '.' :: (withoutZeros digits ++ rest) := by
  rw [shortened, takeWhile_append_stop h hrest, dropWhile_append_stop h hrest]

theorem shortened_digits (h : ∀ c ∈ digits, c.isDigit) (hrest : ¬ rest.head?.any Char.isDigit)
    (hpoint : rest.head? ≠ some '.') :
    shortened (digits ++ rest) = withoutZeros digits ++ rest := by
  have hstart : (digits ++ rest).head? ≠ some '.' := by
    cases digits with
    | nil => exact hpoint
    | cons c tail =>
      rintro hc
      obtain rfl : c = '.' := by simpa using hc
      exact absurd (h '.' List.mem_cons_self) (by decide)
  unfold shortened
  split
  · rename_i s hs
    rw [hs] at hstart
    exact absurd rfl hstart
  · rw [takeWhile_append_stop h hrest, dropWhile_append_stop h hrest]

theorem Precise.nonneg (h : Precise digits n) (hne : digits ≠ []) : 0 ≤ n := by
  cases h with
  | left_open => exact absurd rfl hne
  | number => exact Int.natCast_nonneg _

theorem not_digit_of_realKind? (h : realKind? letter = some kind) :
    ¬ letter.isDigit ∧ letter ≠ '.' := by
  unfold realKind? at h
  split at h
  · decide
  · decide
  · cases h

theorem toChars_open (h : realKind? letter = some kind) : toChars ⟨kind, -1⟩ = [letter] := by
  unfold realKind? at h
  split at h <;> cases h <;> rfl

theorem toChars_places (h : realKind? letter = some kind) (hn : 0 ≤ n) :
    toChars ⟨kind, n⟩ = '.' :: (precisionDigits ⟨kind, n⟩ ++ [letter]) := by
  have hpoint : (if n < 0 then [] else ['.']) = ['.'] := if_neg (Int.not_lt.2 hn)
  unfold realKind? at h
  split at h <;> cases h <;> simp [toChars, hpoint]

theorem Spells.toChars_eq (h : Spells s f) : f.toChars = shortened s := by
  cases h with
  | string => rfl
  | int precise =>
    rw [shortened_digits precise.isDigit (by decide) (by decide), ← precise.precisionDigits_eq]
    rfl
  | real real =>
    obtain ⟨hdigit, hpoint⟩ := not_digit_of_realKind? real
    have hempty : ∀ c ∈ ([] : List Char), c.isDigit := by simp
    rw [toChars_open real]
    exact (shortened_digits hempty (by simpa using hdigit) (by simpa using hpoint)).symm
  | places real ne_nil precise =>
    obtain ⟨hdigit, -⟩ := not_digit_of_realKind? real
    rw [toChars_places real (precise.nonneg ne_nil), precise.precisionDigits_eq]
    exact (shortened_point precise.isDigit (by simpa using hdigit)).symm

theorem Spells.toChars (h : Spells s f) : Spells f.toChars f := by
  cases h with
  | string => exact .string
  | int precise =>
    have hdigits := precise.withoutZeros
    rw [← precise.precisionDigits_eq] at hdigits
    exact .int hdigits
  | real real =>
    rw [toChars_open real]
    exact .real real
  | places real ne_nil precise =>
    have hdigits := precise.withoutZeros
    have hne : withoutZeros _ ≠ [] := withoutZeros_eq ne_nil precise.isDigit ▸ natDigits_ne_nil _
    rw [toChars_places real (precise.nonneg ne_nil), precise.precisionDigits_eq]
    exact .places real hne hdigits

/-- Which texts are format specs, what every other text gives, and how a spec that was read is
written. -/
theorem ofText_canonical (text : String) :
    (∀ f, ofText text = .ok f ↔ Spells text.toList f) ∧
      ((∀ f, ¬ Spells text.toList f) → ofText text = .error ⟨text⟩) ∧
      ∀ f, ofText text = .ok f →
        f.toText = String.ofList (shortened text.toList) ∧ ofText f.toText = .ok f := by
  refine ⟨fun f => ofText_eq_ok_iff, fun hnone => ?_, fun f hf => ?_⟩
  · cases hread : ofChars? text.toList with
    | none => rw [ofText, hread]
    | some f => exact absurd (ofChars?_eq_some_iff.1 hread) (hnone f)
  · have hspells := ofText_eq_ok_iff.1 hf
    refine ⟨congrArg String.ofList hspells.toChars_eq, ofText_eq_ok_iff.2 ?_⟩
    rw [toText, String.toList_ofList]
    exact hspells.toChars

theorem ofText_canonical_zeros :
    ofText ".007p" = .ok ⟨.percent, 7⟩ ∧ toText ⟨.percent, 7⟩ = ".7p" ∧
      ofText ".7p" = .ok ⟨.percent, 7⟩ ∧ ofText ".031f" = .error ⟨".031f"⟩ := by
  have hread : ofText ".007p" = .ok ⟨.percent, 7⟩ := by decide
  obtain ⟨hwritten, hagain⟩ := (ofText_canonical ".007p").2.2 _ hread
  have htext : toText ⟨.percent, 7⟩ = ".7p" := hwritten.trans (by decide)
  refine ⟨hread, htext, htext ▸ hagain, (ofText_canonical ".031f").2.1 fun f hf => ?_⟩
  have hrefused : ofChars? ".031f".toList = none := by decide
  rw [ofChars?_eq_some_iff.2 hf] at hrefused
  cases hrefused

end SheetTemplate.FormatSpec
