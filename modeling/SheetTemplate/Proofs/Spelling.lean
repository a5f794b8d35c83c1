import Mathlib
import SheetTemplate.Proofs.Insertion

namespace SheetTemplate

open Number

theorem isAlpha_iff {c : Char} :
    c.isAlpha ↔ (65 ≤ c.toNat ∧ c.toNat ≤ 90) ∨ (97 ≤ c.toNat ∧ c.toNat ≤ 122) := by
  simp only [Char.isAlpha, Char.isUpper, Char.isLower, Bool.or_eq_true, Bool.and_eq_true,
    decide_eq_true_eq, ge_iff_le, UInt32.le_iff_toNat_le]
  rfl

theorem isDigit_iff {c : Char} : c.isDigit ↔ 48 ≤ c.toNat ∧ c.toNat ≤ 57 := by
  simp only [Char.isDigit, Bool.and_eq_true, decide_eq_true_eq, ge_iff_le, UInt32.le_iff_toNat_le]
  rfl

theorem toLower_of_isDigit {c : Char} (h : c.isDigit) : c.toLower = c := by
  have hdigit := isDigit_iff.1 h
  rw [Char.toLower, dif_neg]
  rintro ⟨hle, -⟩
  have : 65 ≤ c.toNat := hle
  omega

theorem not_isAlpha_of_isDigit (c : Char) (h : c.isDigit) : ¬ c.isAlpha := by
  rw [isAlpha_iff]
  rw [isDigit_iff] at h
  omega

namespace CellRef

theorem isAlpha_letter {d : Nat} (h : d < 26) : (letter d).isAlpha := by
  interval_cases d <;> decide

theorem letterValue_letter {d : Nat} (h : d < 26) : letterValue (letter d) = d + 1 := by
  interval_cases d <;> decide

theorem toNat_toUpper_bounds {c : Char} (h : c.isAlpha) :
    65 ≤ c.toUpper.toNat ∧ c.toUpper.toNat ≤ 90 := by
  rw [isAlpha_iff] at h
  by_cases hlower : 'a'.val ≤ c.val ∧ c.val ≤ 'z'.val
  · have hval : c.toUpper.val = c.val + ('A'.val - 'a'.val) := by rw [Char.toUpper, dif_pos hlower]
    have hdown : ('A'.val - 'a'.val).toNat = 2 ^ 32 - 32 := by decide
    have hnat : c.toUpper.toNat = (c.toNat + (2 ^ 32 - 32)) % 2 ^ 32 := by
      rw [← hdown, Char.toNat, hval, UInt32.toNat_add]
      rfl
    have hlow : 97 ≤ c.toNat := hlower.1
    omega
  · rw [Char.toUpper, dif_neg hlower]
    have hlow : ¬ (97 ≤ c.toNat ∧ c.toNat ≤ 122) := hlower
    omega

theorem letterValue_le {c : Char} (h : c.isAlpha) : letterValue c ≤ 26 := by
  have hupper := toNat_toUpper_bounds h
  have hA : 'A'.toNat = 65 := rfl
  rw [letterValue]
  omega

theorem lettersValue_concat (s : List Char) (c : Char) :
    lettersValue (s ++ [c]) = 26 * lettersValue s + letterValue c := by
  rw [lettersValue, List.foldl_append]
  rfl

theorem columnLetters_ne_nil (col : Nat) : columnLetters col ≠ [] := by
  rw [columnLetters]
  split
  · exact List.cons_ne_nil _ _
  · exact List.append_ne_nil_of_right_ne_nil _ (List.cons_ne_nil _ _)

theorem isAlpha_of_mem_columnLetters {col : Nat} {c : Char} (h : c ∈ columnLetters col) :
    c.isAlpha := by
  induction col using columnLetters.induct with
  | case1 col hcol =>
    rw [columnLetters, if_pos hcol, List.mem_singleton] at h
    exact h ▸ isAlpha_letter hcol
  | case2 col hcol ih =>
    rw [columnLetters, if_neg hcol, List.mem_append, List.mem_singleton] at h
    rcases h with h | rfl
    · exact ih h
    · exact isAlpha_letter (Nat.mod_lt _ (by decide))

theorem lettersValue_columnLetters (col : Nat) : lettersValue (columnLetters col) = col + 1 := by
  induction col using columnLetters.induct with
  | case1 col hcol =>
    have hvalue : lettersValue [letter col] = 26 * 0 + letterValue (letter col) := rfl
    rw [columnLetters, if_pos hcol, hvalue, letterValue_letter hcol]
    omega
  | case2 col hcol ih =>
    have hlast : letterValue (letter (col % 26)) = col % 26 + 1 :=
      letterValue_letter (Nat.mod_lt _ (by decide))
    rw [columnLetters, if_neg hcol, lettersValue_concat, ih, hlast]
    omega

def columnsWithin : Nat → Nat
  | 0 => 0
  | n + 1 => 26 * (columnsWithin n + 1)

theorem columnsWithin_three : columnsWithin 3 = 18278 := rfl

theorem columnsWithin_mono : Monotone columnsWithin := by
  apply monotone_nat_of_le_succ
  intro n
  rw [columnsWithin]
  omega

theorem length_columnLetters_le_iff {col n : Nat} :
    (columnLetters col).length ≤ n ↔ col < columnsWithin n := by
  induction col using columnLetters.induct generalizing n with
  | case1 col hcol =>
    rw [columnLetters, if_pos hcol]
    cases n with
    | zero => simp [columnsWithin]
    | succ n => simp only [List.length_singleton, columnsWithin]; omega
  | case2 col hcol ih =>
    rw [columnLetters, if_neg hcol, List.length_append, List.length_singleton]
    cases n with
    | zero => simp [columnsWithin]
    | succ n =>
      rw [Nat.add_le_add_iff_right, ih, columnsWithin]
      omega

theorem lettersValue_le {s : List Char} (h : ∀ c ∈ s, c.isAlpha) :
    lettersValue s ≤ columnsWithin s.length := by
  induction s using List.reverseRec with
  | nil => exact Nat.le_refl 0
  | append_singleton s c ih =>
    have hc := letterValue_le (h c (by simp))
    have hs := ih fun d hd => h d (List.mem_append_left _ hd)
    rw [lettersValue_concat, List.length_append, List.length_singleton, columnsWithin]
    omega

end CellRef

theorem natDigits_ne_nil (n : Nat) : natDigits n ≠ [] := Nat.toDigits_ne_nil

theorem isDigit_of_mem_natDigits {n : Nat} {c : Char} (h : c ∈ natDigits n) : c.isDigit :=
  Nat.isDigit_of_mem_toDigits (by decide) (by decide) h

theorem digitsValue_natDigits (n : Nat) : digitsValue (natDigits n) = n := by
  have h : Nat.ofDigitChars 10 (natDigits n) 0 = n := Nat.ofDigitChars_ten_toDigits
  rwa [Nat.ofDigitChars_eq_foldl] at h

theorem readUnsigned?_natDigits {n limit : Nat} (h : n ≤ limit) :
    readUnsigned? limit (natDigits n) = some n := by
  obtain ⟨c, s, hs⟩ := List.exists_cons_of_ne_nil (natDigits_ne_nil n)
  have hdigits : (natDigits n).all Char.isDigit = true :=
    List.all_eq_true.2 fun c hc => isDigit_of_mem_natDigits hc
  have hread : readNat? limit (natDigits n) = some n := by
    rw [readNat?, hdigits, digitsValue_natDigits, if_neg (by simp [natDigits_ne_nil]), if_pos h]
  have hplus : c ≠ '+' := by
    rintro rfl
    have hdigit := isDigit_of_mem_natDigits (hs ▸ List.mem_cons_self : '+' ∈ natDigits n)
    cases hdigit
  unfold readUnsigned?
  split
  case h_1 t heq =>
    rw [hs] at heq
    exact absurd (List.cons.inj heq).1 hplus
  case h_2 => exact hread

section Runs

variable {α : Type} {p : α → Bool} {l rest : List α}

theorem takeWhile_append_stop (hl : ∀ a ∈ l, p a) (hrest : ¬ rest.head?.any p) :
    (l ++ rest).takeWhile p = l := by
  rw [List.takeWhile_append_of_pos hl]
  cases rest with
  | nil => simp
  | cons a rest => simp [List.takeWhile_cons_of_neg (show ¬ p a from hrest)]

theorem dropWhile_append_stop (hl : ∀ a ∈ l, p a) (hrest : ¬ rest.head?.any p) :
    (l ++ rest).dropWhile p = rest := by
  rw [List.dropWhile_append_of_pos hl]
  cases rest with
  | nil => rfl
  | cons a rest => exact List.dropWhile_cons_of_neg hrest

theorem head?_dropWhile_stop (p : α → Bool) (l : List α) : ¬ (l.dropWhile p).head?.any p := by
  have h := List.head?_dropWhile_not p l
  cases hhead : (l.dropWhile p).head? with
  | none => simp
  | some a => rw [hhead] at h; simp [h]

theorem not_any_head?_append {q : α → Bool} (hl : ∀ a ∈ l, p a) (hne : l ≠ [])
    (h : ∀ a, p a → ¬ q a) (rest : List α) : ¬ (l ++ rest).head?.any q := by
  obtain ⟨a, l, rfl⟩ := List.exists_cons_of_ne_nil hne
  exact h a (hl a List.mem_cons_self)

theorem not_any_of_imp {o : Option α} {q : α → Bool} (h : ∀ a, p a → q a) (hq : ¬ o.any q) :
    ¬ o.any p := by
  cases o with
  | none => simp
  | some a => exact fun hp => hq (h a hp)

end Runs

/-- The indices that a token can spell: columns of three letters and 64-bit row numbers. -/
def Axis.Writable : Axis → Nat → Prop
  | .row, n => n + 1 ≤ greatestNat64
  | .column, n => (CellRef.columnLetters n).length ≤ 3

namespace CellRef

def Writable (c : CellRef) : Prop := ∀ axis : Axis, axis.Writable (axis.coordinate c)

theorem Writable.shift {c : CellRef} (h : c.Writable) {axis : Axis} {start count : Nat}
    (hw : axis.Writable (shiftIndex start count (axis.coordinate c))) :
    (c.shift axis start count).Writable := by
  intro axis'
  by_cases haxis : axis' = axis
  · subst haxis
    rwa [coordinate_shift]
  · obtain rfl := Axis.eq_other_of_ne haxis
    rw [coordinate_other_shift]
    exact h axis.other

variable {letters digits : List Char} {c : CellRef}

theorem ofChars?_append (hl : ∀ x ∈ letters, x.isAlpha) (hd : ∀ x ∈ digits, x.isDigit)
    (hlne : letters ≠ []) (hdne : digits ≠ []) :
    ofChars? (letters ++ digits) = some c ↔
      lettersValue letters ≤ greatestNat64 ∧ digitsValue digits ≤ greatestNat64 ∧
        digitsValue digits = c.row + 1 ∧ lettersValue letters - 1 = c.col := by
  have hhead : ¬ digits.head?.any Char.isAlpha := by
    simpa using not_any_head?_append hd hdne not_isAlpha_of_isDigit []
  have hall : digits.all Char.isDigit := List.all_eq_true.2 hd
  obtain ⟨row, col⟩ := c
  rw [ofChars?, takeWhile_append_stop hl hhead, dropWhile_append_stop hl hhead]
  by_cases hletters : greatestNat64 < lettersValue letters
  · simp [hletters]
  · by_cases hdigits : digitsValue digits ≤ greatestNat64
    · cases hvalue : digitsValue digits with
      | zero => simp [readNat?, hlne, hdne, hall, hvalue]
      | succ n => simp [readNat?, hlne, hdne, hall, hvalue, hletters, hvalue ▸ hdigits]; omega
    · simp [readNat?, hlne, hdne, hall, hletters, hdigits]

end CellRef

namespace RefToken

open CellRef

variable {t : RefToken} {s rest : List Char} {c : CellRef}

structure Spelled (t : RefToken) : Prop where
  letters : ∀ x ∈ t.letters, x.isAlpha
  letters_ne_nil : t.letters ≠ []
  length_letters : t.letters.length ≤ 3
  digits : ∀ x ∈ t.digits, x.isDigit
  digits_ne_nil : t.digits ≠ []

theorem splitDollar_append {fixed : Bool} (h : ¬ s.head?.any (· == '$')) :
    splitDollar (dollar fixed ++ s) = (fixed, s) := by
  cases fixed with
  | true => rfl
  | false =>
    cases s with
    | nil => rfl
    | cons x s =>
      have hx : x ≠ '$' := by simpa using h
      simp [dollar, splitDollar, hx]

theorem not_dollar {p : Char → Bool} (hp : ¬ p '$') (x : Char) (hx : p x) : ¬ (x == '$') := by
  intro hdollar
  exact hp (eq_of_beq hdollar ▸ hx)

theorem spelled_of_split? (h : split? s = some (t, rest)) : t.Spelled := by
  simp only [split?] at h
  split at h
  · cases h
  · rename_i hn
    cases h
    simp only [Bool.or_eq_true, decide_eq_true_eq, List.isEmpty_iff, not_or, Nat.not_lt] at hn
    obtain ⟨⟨hletters, hlength⟩, hdigits⟩ := hn
    exact ⟨fun _ => List.mem_takeWhile_imp, hletters, hlength, fun _ => List.mem_takeWhile_imp,
      hdigits⟩

theorem not_isDigit_of_split? (h : split? s = some (t, rest)) : ¬ rest.head?.any Char.isDigit := by
  simp only [split?] at h
  split at h
  · cases h
  · cases h
    exact head?_dropWhile_stop _ _

theorem split?_append (ht : t.Spelled) (hrest : ¬ rest.head?.any Char.isDigit) :
    split? (t.toChars ++ rest) = some (t, rest) := by
  have hassoc : t.toChars ++ rest =
      dollar t.colFixed ++ (t.letters ++ (dollar t.rowFixed ++ (t.digits ++ rest))) := by
    simp only [toChars, List.append_assoc]
  have hletters : splitDollar (t.toChars ++ rest) =
      (t.colFixed, t.letters ++ (dollar t.rowFixed ++ (t.digits ++ rest))) := by
    rw [hassoc]
    apply splitDollar_append
    exact not_any_head?_append ht.letters ht.letters_ne_nil (not_dollar (by decide)) _
  have hdigits : splitDollar (dollar t.rowFixed ++ (t.digits ++ rest)) =
      (t.rowFixed, t.digits ++ rest) := by
    apply splitDollar_append
    exact not_any_head?_append ht.digits ht.digits_ne_nil (not_dollar (by decide)) _
  have hstop : ¬ (dollar t.rowFixed ++ (t.digits ++ rest)).head?.any Char.isAlpha := by
    cases t.rowFixed with
    | true => exact show ¬ Char.isAlpha '$' by decide
    | false => exact not_any_head?_append ht.digits ht.digits_ne_nil not_isAlpha_of_isDigit _
  have hspell : (t.letters.isEmpty || 3 < t.letters.length || t.digits.isEmpty) = false := by
    simp [ht.letters_ne_nil, ht.length_letters, ht.digits_ne_nil]
  simp only [split?, hletters, takeWhile_append_stop ht.letters hstop,
    dropWhile_append_stop ht.letters hstop, hdigits, takeWhile_append_stop ht.digits hrest,
    dropWhile_append_stop ht.digits hrest, hspell]
  rfl

/-- A token is read off exactly those texts that begin with it and do not go on with a digit. -/
theorem split?_eq_some_iff :
    split? s = some (t, rest) ↔
      t.Spelled ∧ t.toChars ++ rest = s ∧ ¬ rest.head?.any Char.isDigit := by
  constructor
  · intro h
    exact ⟨spelled_of_split? h, toChars_append_of_split? h, not_isDigit_of_split? h⟩
  · rintro ⟨ht, rfl, hrest⟩
    exact split?_append ht hrest

def wordChar (x : Char) : Bool := x.isAlphanum || x == '$'

theorem wordChar_of_isDigit {x : Char} (hx : x.isDigit) : wordChar x := by
  simp [wordChar, Char.isAlphanum, hx]

theorem Spelled.wordChar (ht : t.Spelled) {x : Char} (hx : x ∈ t.toChars) : wordChar x := by
  have hdollar : ∀ fixed, x ∈ dollar fixed → x = '$' := by
    intro fixed hx
    cases fixed with
    | true => exact List.mem_singleton.1 hx
    | false => cases hx
  simp only [toChars, List.mem_append] at hx
  simp only [RefToken.wordChar, Char.isAlphanum, Bool.or_eq_true, beq_iff_eq]
  rcases hx with ((hx | hx) | hx) | hx
  · exact .inr (hdollar _ hx)
  · exact .inl (.inl (ht.letters x hx))
  · exact .inr (hdollar _ hx)
  · exact .inl (.inr (ht.digits x hx))

theorem Spelled.count_quote (ht : t.Spelled) : t.toChars.count '"' = 0 := by
  rw [List.count_eq_zero]
  intro hmem
  exact absurd (ht.wordChar hmem) (by decide)

theorem cell?_eq_some_iff (ht : t.Spelled) :
    t.cell? = some c ↔
      lettersValue t.letters ≤ greatestNat64 ∧ digitsValue t.digits ≤ greatestNat64 ∧
        digitsValue t.digits = c.row + 1 ∧ lettersValue t.letters - 1 = c.col :=
  ofChars?_append ht.letters ht.digits ht.letters_ne_nil ht.digits_ne_nil

theorem Spelled.writable (ht : t.Spelled) (hc : t.cell? = some c) : c.Writable := by
  obtain ⟨-, hdigits, hrow, hcol⟩ := (cell?_eq_some_iff ht).1 hc
  have hvalue := lettersValue_le ht.letters
  have hbound := columnsWithin_mono ht.length_letters
  have hthree := columnsWithin_three
  intro axis
  cases axis with
  | row => exact show c.row + 1 ≤ greatestNat64 from hrow ▸ hdigits
  | column =>
    refine length_columnLetters_le_iff.2 ?_
    rw [Axis.coordinate]
    omega

theorem spelled_shift (ht : t.Spelled) (hc : t.cell? = some c) {axis : Axis} {start count : Nat}
    (hw : start ≤ axis.coordinate c → axis.Writable (axis.coordinate c + count)) :
    (t.shift axis start count c).Spelled ∧
      (t.shift axis start count c).cell? = some (c.shift axis start count) := by
  by_cases hstays : axis.coordinate c < start
  · rw [shift, if_pos hstays, CellRef.shift_of_lt hstays]
    exact ⟨ht, hc⟩
  · rw [shift, if_neg hstays]
    have hstart := Nat.le_of_not_lt hstays
    have hmoved : (c.shift axis start count).Writable := by
      refine (ht.writable hc).shift ?_
      rw [shiftIndex_of_le hstart]
      exact hw hstart
    have hcol := hmoved .column
    have hrow := hmoved .row
    have ht' : Spelled { t with
        letters := columnLetters (c.shift axis start count).col,
        digits := natDigits ((c.shift axis start count).row + 1) } :=
      ⟨fun _ => isAlpha_of_mem_columnLetters, columnLetters_ne_nil _, hcol,
        fun _ => isDigit_of_mem_natDigits, natDigits_ne_nil _⟩
    refine ⟨ht', (cell?_eq_some_iff ht').2 ?_⟩
    rw [lettersValue_columnLetters, digitsValue_natDigits]
    have hcols : (c.shift axis start count).col < columnsWithin 3 :=
      length_columnLetters_le_iff.1 hcol
    rw [columnsWithin_three] at hcols
    have hgreatest : 18278 ≤ greatestNat64 := by decide
    exact ⟨by omega, hrow, rfl, Nat.add_sub_cancel ..⟩

end RefToken

end SheetTemplate
