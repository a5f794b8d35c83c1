import SheetTemplate.Proofs.SheetInsertion
import SheetTemplate.Proofs.Spelling

namespace SheetTemplate

open Number

theorem foldl_eq_ofDigits (base : Nat) (value : Char → Nat) (s : List Char) :
    s.foldl (fun n c => base * n + value c) 0 = Nat.ofDigits base (s.reverse.map value) := by
  induction s using List.reverseRec with
  | nil => rfl
  | append_singleton s c ih =>
    rw [List.foldl_append, List.reverse_append, List.reverse_singleton, List.singleton_append,
      List.map_cons, Nat.ofDigits_cons, ← ih, Nat.add_comm]
    rfl

theorem digitsValue_concat (s : List Char) (c : Char) :
    digitsValue (s ++ [c]) = 10 * digitsValue s + digitValue c := by
  rw [digitsValue, List.foldl_append]
  rfl

theorem digitValue_lt {c : Char} (h : c.isDigit) : digitValue c < 10 := by
  have hzero : '0'.toNat = 48 := rfl
  rw [isDigit_iff] at h
  rw [digitValue]
  omega

theorem natDigits_digitValue {c : Char} (h : c.isDigit) : natDigits (digitValue c) = [c] := by
  have hc := isDigit_iff.1 h
  have hchar : (digitValue c).digitChar = c := by
    have hzero : '0'.toNat = 48 := rfl
    rw [← Char.toNat_inj, Nat.toNat_digitChar_of_lt_ten (digitValue_lt h), digitValue]
    omega
  rw [natDigits, Nat.toDigits_of_lt_base (digitValue_lt h), hchar]

theorem digitValue_eq_zero_iff {c : Char} (h : c.isDigit) : digitValue c = 0 ↔ c = '0' := by
  have hzero : '0'.toNat = 48 := rfl
  rw [isDigit_iff] at h
  rw [← Char.toNat_inj, digitValue]
  omega

/-- What is left of digits without the zeros in front are the digits of their number. -/
theorem dropWhile_zeros {s : List Char} (h : ∀ c ∈ s, c.isDigit) :
    s.dropWhile (· == '0') = if digitsValue s = 0 then [] else natDigits (digitsValue s) := by
  induction s using List.reverseRec with
  | nil => rfl
  | append_singleton s c ih =>
    have hc : c.isDigit := h c (by simp)
    have hs := ih fun d hd => h d (List.mem_append_left _ hd)
    rw [List.dropWhile_append, hs, digitsValue_concat]
    by_cases hzero : digitsValue s = 0
    · rw [if_pos hzero, if_pos (show List.isEmpty [] = true from rfl), hzero, Nat.mul_zero,
        Nat.zero_add]
      by_cases hc0 : c = '0'
      · rw [if_pos ((digitValue_eq_zero_iff hc).2 hc0), hc0]
        rfl
      · rw [if_neg (mt (digitValue_eq_zero_iff hc).1 hc0), natDigits_digitValue hc]
        exact List.dropWhile_cons_of_neg (by simpa using hc0)
    · have hdigits := Nat.toDigits_append_toDigits (by decide : 1 < 10) (Nat.pos_of_ne_zero hzero)
        (digitValue_lt hc)
      rw [if_neg hzero, if_neg (by simp [natDigits_ne_nil]), if_neg (by omega)]
      conv_lhs => rw [← natDigits_digitValue hc]
      exact hdigits

namespace CellRef

/-- The letter that stands for a letter's value is the letter itself, in upper case. -/
theorem letter_letterValue {c : Char} (h : c.isAlpha) : letter (letterValue c - 1) = c.toUpper := by
  have hlow := (toNat_toUpper_bounds h).1
  have hA : 'A'.toNat = 65 := rfl
  rw [letter, letterValue, hA, show 65 + (c.toUpper.toNat - 65 + 1 - 1) = c.toUpper.toNat by omega,
    Char.ofNat_toNat]

theorem letterValue_pos (c : Char) : 0 < letterValue c := Nat.succ_pos _

theorem lettersValue_pos {s : List Char} (h : s ≠ []) : 0 < lettersValue s := by
  obtain ⟨s, c, rfl⟩ := (List.eq_nil_or_concat s).resolve_left h
  rw [List.concat_eq_append, lettersValue_concat]
  have := letterValue_pos c
  omega

/-- The letters of the column that letters spell are these letters in upper case. -/
theorem columnLetters_lettersValue {s : List Char} (h : ∀ c ∈ s, c.isAlpha) (hne : s ≠ []) :
    columnLetters (lettersValue s - 1) = s.map Char.toUpper := by
  induction s using List.reverseRec with
  | nil => exact absurd rfl hne
  | append_singleton s c ih =>
    have hc : c.isAlpha := h c (by simp)
    have hpos := letterValue_pos c
    have hle := letterValue_le hc
    rw [lettersValue_concat, List.map_append, List.map_singleton, columnLetters]
    by_cases hs : s = []
    · have hzero : lettersValue [] = 0 := rfl
      rw [hs, if_pos (by omega), hzero, Nat.mul_zero, Nat.zero_add, letter_letterValue hc]
      rfl
    · have hvalue := lettersValue_pos hs
      have hfront : (26 * lettersValue s + letterValue c - 1) / 26 - 1 = lettersValue s - 1 := by
        omega
      have hlast : (26 * lettersValue s + letterValue c - 1) % 26 = letterValue c - 1 := by omega
      rw [if_neg (by omega), hfront, hlast, ih (fun d hd => h d (List.mem_append_left _ hd)) hs,
        letter_letterValue hc]

theorem columnLetters_inj {col col' : Nat} : columnLetters col = columnLetters col' ↔ col = col' := by
  constructor
  · intro h
    have hvalue := congrArg lettersValue h
    rw [lettersValue_columnLetters, lettersValue_columnLetters] at hvalue
    exact Nat.succ.inj hvalue
  · rintro rfl
    rfl

def addWithin? (greatest a b : Nat) : Option Nat := if a + b ≤ greatest then some (a + b) else none

/-- Letters for a number counted from one, put in front of those that are there, the last first.
Character codes have eight bits. -/
def countOut? (n : Nat) (letters : List Char) : Option (List Char) :=
  match n with
  | 0 => some letters
  | n + 1 => do
    let code ← addWithin? 255 'A'.toNat (n % 26)
    countOut? (n / 26) (Char.ofNat code :: letters)
termination_by n
decreasing_by exact Nat.lt_succ_of_le (Nat.div_le_self n 26)

def columnLettersWithin? (greatest col : Nat) : Option (List Char) := do
  let n ← addWithin? greatest col 1
  countOut? n []

theorem countOut?_succ (col : Nat) (letters : List Char) :
    countOut? (col + 1) letters = some (columnLetters col ++ letters) := by
  have hcode (n : Nat) : addWithin? 255 'A'.toNat (n % 26) = some ('A'.toNat + n % 26) := by
    have hA : 'A'.toNat = 65 := rfl
    exact if_pos (by omega)
  induction col using columnLetters.induct generalizing letters with
  | case1 col hcol =>
    rw [countOut?, hcode, columnLetters, if_pos hcol, Nat.div_eq_of_lt hcol, Nat.mod_eq_of_lt hcol]
    change countOut? 0 _ = _
    rw [countOut?]
    rfl
  | case2 col hcol ih =>
    have hdiv : col / 26 = col / 26 - 1 + 1 := by omega
    rw [countOut?, hcode, columnLetters, if_neg hcol, hdiv]
    change countOut? _ _ = _
    rw [ih, List.append_assoc]
    rfl

/-- Numbers that go one beyond the column suffice. -/
theorem columnLettersWithin?_eq {greatest col : Nat} (h : col < greatest) :
    columnLettersWithin? greatest col = some (columnLetters col) := by
  rw [columnLettersWithin?, addWithin?, if_pos (show col + 1 ≤ greatest from h)]
  change countOut? (col + 1) [] = _
  rw [countOut?_succ, List.append_nil]

/-- Both numbers that the text of the cell tells have 64 bits. -/
def Addressable (c : CellRef) : Prop := c.row < greatestNat64 ∧ c.col < greatestNat64

/-- Letters of either case tell the column in base 26, with digits from 1 to 26, and digits tell
the row; both are counted from one. -/
structure Spells (letters digits : List Char) (c : CellRef) : Prop where
  isAlpha : ∀ x ∈ letters, x.isAlpha
  letters_ne_nil : letters ≠ []
  isDigit : ∀ x ∈ digits, x.isDigit
  digits_ne_nil : digits ≠ []
  col : Nat.ofDigits 26 (letters.reverse.map letterValue) = c.col + 1
  row : Nat.ofDigits 10 (digits.reverse.map digitValue) = c.row + 1
  addressable : c.Addressable

variable {letters digits s : List Char} {c d : CellRef}

theorem spells_iff_ofChars? (hl : ∀ x ∈ letters, x.isAlpha) (hd : ∀ x ∈ digits, x.isDigit)
    (hlne : letters ≠ []) (hdne : digits ≠ []) :
    Spells letters digits c ↔ ofChars? (letters ++ digits) = some c := by
  have hcol : lettersValue letters = Nat.ofDigits 26 (letters.reverse.map letterValue) :=
    foldl_eq_ofDigits 26 letterValue letters
  have hrow : digitsValue digits = Nat.ofDigits 10 (digits.reverse.map digitValue) :=
    foldl_eq_ofDigits 10 digitValue digits
  have hpos := lettersValue_pos hlne
  rw [ofChars?_append hl hd hlne hdne]
  constructor
  · rintro ⟨-, -, -, -, hc, hr, haddressable⟩
    rw [← hcol] at hc
    rw [← hrow] at hr
    obtain ⟨hrow', hcol'⟩ := haddressable
    omega
  · rintro ⟨hcol', hrow', hr, hc⟩
    refine ⟨hl, hlne, hd, hdne, ?_, ?_, ?_, ?_⟩ <;> omega

theorem digits_of_ofChars? (h : ofChars? s = some c) :
    s.takeWhile Char.isAlpha ≠ [] ∧ s.dropWhile Char.isAlpha ≠ [] ∧
      ∀ x ∈ s.dropWhile Char.isAlpha, x.isDigit := by
  unfold ofChars? at h
  dsimp only at h
  split at h
  case isTrue => cases h
  case isFalse hletters =>
    rw [Bool.or_eq_true, not_or, List.isEmpty_iff] at hletters
    refine ⟨hletters.1, ?_⟩
    unfold readNat? at h
    split at h
    case h_1 row hread =>
      split at hread
      case isTrue => cases hread
      case isFalse hdigits =>
        rw [Bool.or_eq_true, not_or, List.isEmpty_iff, Bool.not_eq_true', Bool.not_eq_false] at hdigits
        exact ⟨hdigits.1, List.all_eq_true.1 hdigits.2⟩
    case h_2 => cases h

/-- Just the texts of letters and digits that spell a cell are read. -/
theorem ofChars?_eq_some_iff :
    ofChars? s = some c ↔ ∃ letters digits, s = letters ++ digits ∧ Spells letters digits c := by
  constructor
  · intro h
    obtain ⟨hletters, hdigits, hall⟩ := digits_of_ofChars? h
    refine ⟨s.takeWhile Char.isAlpha, s.dropWhile Char.isAlpha,
      List.takeWhile_append_dropWhile.symm, ?_⟩
    rw [spells_iff_ofChars? (fun _ => List.mem_takeWhile_imp) hall hletters hdigits,
      List.takeWhile_append_dropWhile]
    exact h
  · rintro ⟨letters, digits, rfl, h⟩
    exact (spells_iff_ofChars? h.isAlpha h.isDigit h.letters_ne_nil h.digits_ne_nil).1 h

theorem Spells.toChars (h : Spells letters digits c) :
    c.toChars = letters.map Char.toUpper ++ digits.dropWhile (· == '0') := by
  have hcol : lettersValue letters = c.col + 1 := (foldl_eq_ofDigits 26 _ _).trans h.col
  have hrow : digitsValue digits = c.row + 1 := (foldl_eq_ofDigits 10 _ _).trans h.row
  have hletters := columnLetters_lettersValue h.isAlpha h.letters_ne_nil
  rw [hcol, Nat.add_sub_cancel] at hletters
  rw [CellRef.toChars, hletters, dropWhile_zeros h.isDigit, hrow, if_neg (Nat.succ_ne_zero _)]

/-- A cell's own letters and digits spell it. -/
theorem spells_self (h : c.Addressable) : Spells (columnLetters c.col) (natDigits (c.row + 1)) c := by
  have hletters : ∀ x ∈ columnLetters c.col, x.isAlpha := fun _ => isAlpha_of_mem_columnLetters
  have hdigits : ∀ x ∈ natDigits (c.row + 1), x.isDigit := fun _ => isDigit_of_mem_natDigits
  rw [spells_iff_ofChars? hletters hdigits (columnLetters_ne_nil _) (natDigits_ne_nil _),
    ofChars?_append hletters hdigits (columnLetters_ne_nil _) (natDigits_ne_nil _),
    lettersValue_columnLetters, digitsValue_natDigits]
  exact ⟨h.2, h.1, rfl, rfl⟩

theorem ofChars?_toChars (h : c.Addressable) : ofChars? c.toChars = some c :=
  ofChars?_eq_some_iff.2 ⟨_, _, rfl, spells_self h⟩

theorem isAlphanum_of_ofChars? (h : ofChars? s = some c) {x : Char} (hx : x ∈ s) : x.isAlphanum := by
  obtain ⟨letters, digits, rfl, hspells⟩ := ofChars?_eq_some_iff.1 h
  rw [Char.isAlphanum, Bool.or_eq_true]
  rcases List.mem_append.1 hx with hx | hx
  · exact .inl (hspells.isAlpha x hx)
  · exact .inr (hspells.isDigit x hx)

end CellRef

namespace Area

open CellRef

variable {s s' : List Char} {c d : CellRef}

theorem not_isBlank_of_isAlphanum {x : Char} (h : x.isAlphanum) : ¬ Text.isBlank x := by
  rw [Char.isAlphanum, Bool.or_eq_true, isAlpha_iff, isDigit_iff] at h
  simp only [Text.isBlank, Text.blankRanges, Text.Ranges.covers]
  grind

theorem trim_eq_self (h : ∀ x ∈ s, ¬ Text.isBlank x) : Text.trim s = s := by
  have hfront {s : List Char} (h : ∀ x ∈ s, ¬ Text.isBlank x) : s.dropWhile Text.isBlank = s := by
    rw [List.dropWhile_eq_self_iff]
    exact fun hl => h _ (List.getElem_mem hl)
  rw [Text.trim, hfront h, hfront, List.reverse_reverse]
  exact fun x hx => h x (List.mem_reverse.1 hx)

/-- An area is read off two corners with a colon between them. -/
theorem ofChars?_corners (hc : CellRef.ofChars? s = some c) (hd : CellRef.ofChars? s' = some d) :
    ofChars? (s ++ ':' :: s') = some (ofCorners c d) := by
  have hs : ∀ x ∈ s, (x != ':') = true := by
    intro x hx
    rw [bne_iff_ne]
    rintro rfl
    exact absurd (isAlphanum_of_ofChars? hc hx) (by decide)
  have hcolon : ¬ (':' :: s').head?.any (· != ':') := by simp
  rw [ofChars?, takeWhile_append_stop hs hcolon, dropWhile_append_stop hs hcolon,
    trim_eq_self fun x hx => not_isBlank_of_isAlphanum (isAlphanum_of_ofChars? hc hx), hc]
  dsimp only
  rw [trim_eq_self fun x hx => not_isBlank_of_isAlphanum (isAlphanum_of_ofChars? hd hx), hd]
  rfl

theorem ofCorners_comm (c d : CellRef) : ofCorners c d = ofCorners d c := by
  simp only [ofCorners, ofBounds, Nat.min_comm, Nat.max_comm]

theorem wellFormed_ofCorners (c d : CellRef) : (ofCorners c d).WellFormed := by
  intro axis
  cases axis <;> simp only [ofCorners, ofBounds, low, high] <;> omega

/-- The area between two corners is the smallest one with both. -/
theorem mem_ofCorners_iff {x : CellRef} : x ∈ ofCorners c d ↔ ∀ a : Area, c ∈ a → d ∈ a → x ∈ a := by
  simp only [mem_def, ofCorners, ofBounds]
  constructor
  · intro hx a hc hd
    omega
  · intro h
    exact h (ofCorners c d) (by simp [ofCorners, ofBounds]) (by simp [ofCorners, ofBounds])

theorem WellFormed.ofCorners {a : Area} (h : a.WellFormed) :
    Area.ofCorners a.topLeft a.bottomRight = a := by
  have hrow : a.top ≤ a.bottom := h .row
  have hcol : a.left ≤ a.right := h .column
  obtain ⟨left, top, right, bottom⟩ := a
  simp only [Area.ofCorners, ofBounds, topLeft, bottomRight, Area.mk.injEq] at *
  omega

theorem ofChars?_toChars {a : Area} (h : a.WellFormed) (hfirst : a.topLeft.Addressable)
    (hlast : a.bottomRight.Addressable) : ofChars? a.toChars = some a := by
  rw [toChars, ofChars?_corners (CellRef.ofChars?_toChars hfirst) (CellRef.ofChars?_toChars hlast),
    h.ofCorners]

end Area

/-- Cells and areas within 64 bits come back from their texts, and only texts that spell a cell are
read as one. Columns have letters of their own, and counting them out fits 128 bits. Two corners in
any order give the smallest area with both. -/
theorem referenceTexts_faithful :
    (∀ c : CellRef, c.Addressable → CellRef.ofText? c.toText = some c) ∧
      (∀ (s : String) (c : CellRef), CellRef.ofText? s = some c ↔
        ∃ letters digits, s.toList = letters ++ digits ∧ CellRef.Spells letters digits c) ∧
      (∀ (letters digits : List Char) (c : CellRef), CellRef.Spells letters digits c →
        c.toText.toList = letters.map Char.toUpper ++ digits.dropWhile (· == '0')) ∧
      Function.Injective CellRef.columnText ∧
      (∀ col ≤ greatestNat64, CellRef.columnLettersWithin? (2 ^ 128 - 1) col =
        some (CellRef.columnText col).toList) ∧
      (∀ a : Area, a.WellFormed → a.topLeft.Addressable → a.bottomRight.Addressable →
        Area.ofText? a.toText = some a) ∧
      ∀ (s s' : String) (c d : CellRef), CellRef.ofText? s = some c → CellRef.ofText? s' = some d →
        ∃ a : Area, Area.ofText? (s ++ ":" ++ s') = some a ∧ Area.ofText? (s' ++ ":" ++ s) = some a ∧
          a.WellFormed ∧ ∀ x, x ∈ a ↔ ∀ b : Area, c ∈ b → d ∈ b → x ∈ b := by
  refine ⟨fun c hc => ?_, fun s c => CellRef.ofChars?_eq_some_iff, fun letters digits c h => ?_,
    fun col col' h => ?_, fun col hcol => ?_, fun a ha hfirst hlast => ?_, fun s s' c d hc hd => ?_⟩
  · rw [CellRef.ofText?, CellRef.toText, String.toList_ofList]
    exact CellRef.ofChars?_toChars hc
  · rw [CellRef.toText, String.toList_ofList]
    exact h.toChars
  · rw [CellRef.columnText, CellRef.columnText, String.ofList_inj] at h
    exact CellRef.columnLetters_inj.1 h
  · rw [CellRef.columnText, String.toList_ofList]
    refine CellRef.columnLettersWithin?_eq (Nat.lt_of_le_of_lt hcol ?_)
    decide
  · rw [Area.ofText?, Area.toText, String.toList_ofList]
    exact Area.ofChars?_toChars ha hfirst hlast
  · have hcorners (s s' : String) : (s ++ ":" ++ s').toList = s.toList ++ ':' :: s'.toList := by
      rw [String.toList_append, String.toList_append, List.append_assoc]
      rfl
    refine ⟨.ofCorners c d, ?_, ?_, Area.wellFormed_ofCorners c d, fun x => Area.mem_ofCorners_iff⟩
    · rw [Area.ofText?, hcorners]
      exact Area.ofChars?_corners hc hd
    · rw [Area.ofText?, hcorners, Area.ofCorners_comm]
      exact Area.ofChars?_corners hd hc

/-- The last cell that has a text, and the first column that no 64-bit number counts from one. -/
theorem referenceTexts_faithful_last :
    CellRef.ofText? (CellRef.toText ⟨greatestNat64 - 1, greatestNat64 - 1⟩) =
        some ⟨greatestNat64 - 1, greatestNat64 - 1⟩ ∧
      CellRef.columnLettersWithin? (2 ^ 128 - 1) greatestNat64 =
        some (CellRef.columnText greatestNat64).toList ∧
      CellRef.columnLettersWithin? greatestNat64 greatestNat64 = none :=
  ⟨referenceTexts_faithful.1 _ ⟨by decide, by decide⟩,
    referenceTexts_faithful.2.2.2.2.1 _ (Nat.le_refl _), by decide⟩

example : Area.ofText? "d010:B2" = some ⟨1, 1, 3, 9⟩ := by decide

end SheetTemplate
