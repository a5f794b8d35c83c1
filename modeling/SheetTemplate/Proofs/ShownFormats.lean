import SheetTemplate.Preview
import SheetTemplate.Proofs.FixedPlaces

namespace SheetTemplate

open Number

namespace Number

variable {x : Float} {places : Nat} {text : String} {c : Char}

theorem Shows.mem (h : Shows places x text) (hc : c ∈ text.toList) :
    c = '-' ∨ c = '.' ∨ c.isDigit = true := by
  obtain ⟨n, whole, fraction, -, hpointed, rfl⟩ := h
  refine (mem_signed hc).imp_right fun hc => ?_
  rcases List.mem_append.1 hc with hc | hc
  · exact .inr (hpointed.whole_digits c hc)
  · split at hc
    · cases hc
    · exact (List.mem_cons.1 hc).imp_right (hpointed.fraction_digits c)

theorem Shows.not_mem_percent (h : Shows places x text) : '%' ∉ text.toList := by
  intro hc
  rcases h.mem hc with hc | hc | hc <;> revert hc <;> decide

theorem specialText_of_not_finite (h : isFinite x = false) :
    ∃ text ∈ ["NaN", "-inf", "inf"], specialText x = some text := by
  unfold specialText
  rw [h]
  cases isNan x
  · cases isNegative x
    · exact ⟨"inf", by decide, rfl⟩
    · exact ⟨"-inf", by decide, rfl⟩
  · exact ⟨"NaN", by decide, rfl⟩

theorem placesText_of_not_finite (h : isFinite x = false) (places : Nat) :
    placesText places x ∈ ["NaN", "-inf", "inf"] := by
  obtain ⟨text, hmem, htext⟩ := specialText_of_not_finite h
  rwa [placesText, htext, Option.getD_some]

end Number

namespace FormatSpec

theorem zeroPattern_succ (n : Nat) :
    zeroPattern (n + 1) = '0' :: '.' :: List.replicate (n + 1) '0' := rfl

theorem getLast?_zeroPattern (places : Nat) : (zeroPattern places).getLast? = some '0' := by
  cases places with
  | zero => rfl
  | succ n =>
    rw [zeroPattern_succ, List.getLast?_cons_cons, List.getLast?_cons, List.getLast?_replicate]
    rfl

/-- The places of a pattern are counted again, whatever stands behind the zeros. -/
theorem placesOf_zeroPattern (places : Nat) (rest : List Char) (h : ∀ c ∈ rest, c ≠ '.' ∧ c ≠ '0') :
    Preview.placesOf (zeroPattern places ++ rest) = places := by
  unfold Preview.placesOf
  cases places with
  | zero =>
    have hpoint : (zeroPattern 0 ++ rest).dropWhile (· != '.') = [] := by
      refine List.dropWhile_eq_nil_iff.2 fun c hc => ?_
      rcases List.mem_cons.1 hc with rfl | hc
      · rfl
      · exact bne_iff_ne.2 (h c hc).1
    rw [hpoint]
  | succ n =>
    have hpoint : (zeroPattern (n + 1) ++ rest).dropWhile (· != '.') =
        '.' :: (List.replicate (n + 1) '0' ++ rest) := rfl
    have hzeros : rest.takeWhile (· == '0') = [] := by
      cases rest with
      | nil => rfl
      | cons c rest => exact List.takeWhile_cons_of_neg (by simp [(h c List.mem_cons_self).2])
    have htake : (List.replicate (n + 1) '0' ++ rest).takeWhile (· == '0') =
        List.replicate (n + 1) '0' := by
      rw [List.takeWhile_append_of_pos (by simp), hzeros, List.append_nil]
    rw [hpoint]
    dsimp only
    rw [htake, List.length_replicate]

/-- A format that begins with a zero is not the general one. -/
theorem ofCode_zeroPattern (places : Nat) (rest : List Char) :
    NumberFormat.ofCode (String.ofList (zeroPattern places ++ rest)) =
      .custom (String.ofList (zeroPattern places ++ rest)) := by
  have hhead : ∃ tail, zeroPattern places = '0' :: tail := by
    cases places with
    | zero => exact ⟨_, rfl⟩
    | succ n => exact ⟨_, rfl⟩
  obtain ⟨tail, htail⟩ := hhead
  rw [NumberFormat.ofCode, if_neg]
  rw [Text.equalsIgnoringCase, htail]
  simp

variable {f : FormatSpec}

theorem displayFormat_float (h : f.kind = .float) :
    f.displayFormat = String.ofList (zeroPattern f.resolvedPrecision ++ []) := by
  rw [displayFormat, h, List.append_nil]

theorem displayFormat_percent (h : f.kind = .percent) :
    f.displayFormat = String.ofList (zeroPattern f.resolvedPrecision ++ ['%']) := by
  rw [displayFormat, h]

theorem displayFormat_plain (h : f.kind = .string ∨ f.kind = .int) : f.displayFormat = "General" := by
  rcases h with h | h <;> rw [displayFormat, h]

end FormatSpec

namespace Preview

theorem formatted_zeroPattern (places : Nat) (x : Float) :
    formatted (String.ofList (FormatSpec.zeroPattern places ++ [])) x = placesText places x := by
  unfold formatted
  rw [String.toList_ofList, FormatSpec.placesOf_zeroPattern places [] (by simp), List.append_nil,
    FormatSpec.getLast?_zeroPattern]
  rfl

theorem formatted_percentPattern (places : Nat) (x : Float) :
    formatted (String.ofList (FormatSpec.zeroPattern places ++ ['%'])) x =
      placesText places (x * 100) ++ "%" := by
  unfold formatted
  rw [String.toList_ofList, List.getLast?_concat,
    FormatSpec.placesOf_zeroPattern places ['%'] (by simp)]
  rfl

/-- What is seen of a finite number in a cell with the format of a spec. -/
def ShownAs (f : FormatSpec) (x : Float) (text : String) : Prop :=
  match f.kind with
  | .float => Shows f.resolvedPrecision x text
  | .percent =>
    if isFinite (x * 100) then
      ∃ shown, Shows f.resolvedPrecision (x * 100) shown ∧ text = shown ++ "%"
    else ∃ special ∈ ["NaN", "-inf", "inf"], text = special ++ "%"
  | .string | .int => text = plainText x

theorem not_mem_percent_plainText {x : Float} (hx : isFinite x = true) :
    '%' ∉ (plainText x).toList := by
  intro hmem
  rw [plainText, specialText_eq_none hx, Option.getD_none] at hmem
  rcases mem_signed hmem with hmem | hmem
  · revert hmem
    decide
  · rcases mem_plain hmem with hmem | hmem <;> revert hmem <;> decide

/-- A percent sign is seen exactly of percentages. -/
theorem ShownAs.mem_percent_iff {f : FormatSpec} {x : Float} {text : String} (h : ShownAs f x text)
    (hx : isFinite x = true) : '%' ∈ text.toList ↔ f.kind = .percent := by
  have hsign (shown : String) : '%' ∈ (shown ++ "%").toList := by
    rw [String.toList_append]
    exact List.mem_append_right _ (by decide)
  unfold ShownAs at h
  split at h
  case h_1 hkind => exact iff_of_false h.not_mem_percent (by simp [hkind])
  case h_2 hkind =>
    refine iff_of_true ?_ hkind
    split at h
    · obtain ⟨shown, -, rfl⟩ := h
      exact hsign shown
    · obtain ⟨special, -, rfl⟩ := h
      exact hsign special
  case h_3 hkind | h_4 hkind =>
    rw [h]
    exact iff_of_false (not_mem_percent_plainText hx) (by simp [hkind])

section

variable {book : Workbook} {s : Sheet} {c : CellRef} {style : Style} {f : FormatSpec} {x : Float}

section

variable (hstyle : book.styles[s.styleAt c]? = some style)

include hstyle

theorem cellText_custom {code : String} (hvalue : s.valueAt c = .float x) (hx : isFinite x = true)
    (hcode : style.numberFormat = .custom code) : cellText book s c = formatted code x := by
  rw [cellText, hvalue]
  dsimp only
  rw [if_pos hx, hstyle, Option.map_some, hcode]

theorem cellText_general (hgeneral : style.numberFormat = .general) :
    cellText book s c = (s.valueAt c).display := by
  rw [cellText]
  cases s.valueAt c with
  | float x =>
    dsimp only
    rw [hstyle, Option.map_some, hgeneral, CellValue.display]
    split <;> rfl
  | empty | text | int | bool | formula => rfl

variable (hformat : style.numberFormat = .ofCode f.displayFormat)

include hformat

theorem cellText_float (hkind : f.kind = .float) (hvalue : s.valueAt c = .float x)
    (hx : isFinite x = true) : cellText book s c = placesText f.resolvedPrecision x := by
  rw [FormatSpec.displayFormat_float hkind, FormatSpec.ofCode_zeroPattern] at hformat
  rw [cellText_custom hstyle hvalue hx hformat, formatted_zeroPattern]

theorem cellText_percent (hkind : f.kind = .percent) (hvalue : s.valueAt c = .float x)
    (hx : isFinite x = true) :
    cellText book s c = placesText f.resolvedPrecision (x * 100) ++ "%" := by
  rw [FormatSpec.displayFormat_percent hkind, FormatSpec.ofCode_zeroPattern] at hformat
  rw [cellText_custom hstyle hvalue hx hformat, formatted_percentPattern]

theorem cellText_plain (hkind : f.kind = .string ∨ f.kind = .int) :
    style.numberFormat = .general ∧ cellText book s c = (s.valueAt c).display := by
  rw [FormatSpec.displayFormat_plain hkind] at hformat
  exact ⟨hformat, cellText_general hstyle hformat⟩

/-- The number format of a spec is read as the spec shows numbers. -/
theorem shownAs_cellText (hvalue : s.valueAt c = .float x) (hx : isFinite x = true) :
    ShownAs f x (cellText book s c) := by
  have hplain (hkind : f.kind = .string ∨ f.kind = .int) : cellText book s c = plainText x := by
    rw [(cellText_plain hstyle hformat hkind).2, hvalue, CellValue.display, if_pos hx]
  unfold ShownAs
  split
  case h_1 hkind =>
    rw [cellText_float hstyle hformat hkind hvalue hx]
    exact shows_placesText hx _
  case h_2 hkind =>
    rw [cellText_percent hstyle hformat hkind hvalue hx]
    split
    case isTrue hhundred => exact ⟨_, shows_placesText hhundred _, rfl⟩
    case isFalse hhundred =>
      exact ⟨_, placesText_of_not_finite (Bool.eq_false_of_not_eq_true hhundred) _, rfl⟩
  case h_3 hkind => exact hplain (.inl hkind)
  case h_4 hkind => exact hplain (.inr hkind)

end

/-- A cell with the format of a spec shows what the spec says. -/
theorem cellText_displayFormat {base : Style}
    (hstyle : book.styles[s.styleAt c]? = some (base.withDisplayFormat f.displayFormat)) :
    (∀ x, s.valueAt c = .float x → isFinite x = true →
      ShownAs f x (cellText book s c) ∧
        ('%' ∈ (cellText book s c).toList ↔ f.kind = .percent)) ∧
    (f.kind = .string ∨ f.kind = .int →
      (base.withDisplayFormat f.displayFormat).numberFormat = .general ∧
        cellText book s c = (s.valueAt c).display) := by
  refine ⟨fun x hvalue hx => ?_, fun hkind => cellText_plain hstyle rfl hkind⟩
  have hshown := shownAs_cellText hstyle rfl hvalue hx
  exact ⟨hshown, hshown.mem_percent_iff hx⟩

end

def percentSpec : FormatSpec := ⟨.percent, -1⟩

def percentSheet (x : Float) : Sheet where
  name := "S"
  cells := ({} : CellMap).insert ⟨0, 0⟩ ⟨.float x, 1⟩

def percentBook (x : Float) : Workbook where
  sheets := [percentSheet x]
  styles := [{}, ({} : Style).withDisplayFormat percentSpec.displayFormat]

theorem valueAt_percentSheet (x : Float) : (percentSheet x).valueAt ⟨0, 0⟩ = .float x := by rfl

theorem style_percentBook (x : Float) :
    (percentBook x).styles[(percentSheet x).styleAt ⟨0, 0⟩]? =
      some (({} : Style).withDisplayFormat percentSpec.displayFormat) := by rfl

theorem cellText_displayFormat_eighth :
    isFinite 0.125 = true ∧ ShownAs percentSpec 0.125 "12.50%" := by
  have hfinite : isFinite 0.125 = true := by decide
  have htext : cellText (percentBook 0.125) (percentSheet 0.125) ⟨0, 0⟩ = "12.50%" := by rfl
  have hshown := (cellText_displayFormat (style_percentBook 0.125)).1 _ (valueAt_percentSheet _)
    hfinite
  rw [htext] at hshown
  exact ⟨hfinite, hshown.1⟩

def greatest : Float := ofCode false (infiniteCode - 1)

/-- The hundredfold of a finite number may be infinite, and no digits are shown of it. -/
theorem not_forall_percent_shown :
    ¬ ∀ (book : Workbook) (s : Sheet) (c : CellRef) (base : Style) (f : FormatSpec) (x : Float),
        book.styles[s.styleAt c]? = some (base.withDisplayFormat f.displayFormat) →
          s.valueAt c = .float x → isFinite x = true → f.kind = .percent →
            ∃ y shown, Shows f.resolvedPrecision y shown ∧ cellText book s c = shown ++ "%" := by
  have htext : cellText (percentBook greatest) (percentSheet greatest) ⟨0, 0⟩ = "inf" ++ "%" := by
    rfl
  intro h
  obtain ⟨y, shown, hshows, heq⟩ := h _ _ _ _ percentSpec _ (style_percentBook greatest)
    (valueAt_percentSheet greatest) (by decide) rfl
  rw [htext, String.append_left_inj] at heq
  have hletter := hshows.mem (c := 'i') (by rw [← heq]; decide)
  revert hletter
  decide

end Preview

end SheetTemplate
