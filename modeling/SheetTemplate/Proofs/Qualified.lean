import SheetTemplate.Proofs.Rescan

namespace SheetTemplate

def RefToken.short (letter digit : Char) : RefToken := ⟨false, [letter], false, [digit]⟩

theorem RefToken.spelled_short {letter digit : Char} (hl : letter.isAlpha) (hd : digit.isDigit) :
    (short letter digit).Spelled :=
  ⟨by simpa [short], List.cons_ne_nil _ _, show 1 ≤ 3 by decide, by simpa [short],
    List.cons_ne_nil _ _⟩

namespace Piece

open RefToken

variable {axis : Axis} {start count : Nat} {q : Bool} {before : Option Char} {x : Char}
  {s rest pre post : List Char} {t u : RefToken} {d : CellRef} {ps : List Piece}

def Separates (x : Char) : Prop := ¬ wordChar x ∧ ¬ gluesAfter x

instance : DecidablePred Separates := fun x => inferInstanceAs (Decidable (¬ wordChar x ∧ _))

theorem split?_separator (hx : ¬ wordChar x) : split? (x :: rest) = none :=
  split?_eq_none_congr (s := []) (List.takeWhile_cons_of_neg hx) rfl

/-- What stands before a separator is forgotten. -/
theorem scan_separator (hx : ¬ wordChar x) (q : Bool) (before : Option Char) (rest : List Char) :
    scan q before (x :: rest) = scan q none (x :: rest) := by
  by_cases hquote : x = '"'
  · rw [hquote, scan_quote, scan_quote]
  · cases q with
    | true => rw [scan_quoted hquote, scan_quoted hquote]
    | false =>
      rw [scan_of_split?_none hquote (split?_separator hx),
        scan_of_split?_none hquote (split?_separator hx)]

theorem takeWhile_append_separator (hx : ¬ wordChar x) (s rest : List Char) :
    (s ++ x :: rest).takeWhile wordChar = s.takeWhile wordChar := by
  rw [List.takeWhile_append, List.takeWhile_cons_of_neg hx, List.append_nil]
  split
  · rename_i hlength
    exact ((List.takeWhile_prefix _).eq_of_length hlength).symm
  · rfl

theorem any_head?_append {p : Char → Bool} (hx : ¬ p x) (s rest : List Char) :
    (s ++ x :: rest).head?.any p = s.head?.any p := by
  cases s with
  | nil => simpa using hx
  | cons y s => rfl

theorem scan_append (hx : Separates x) (q : Bool) (before : Option Char) (s rest : List Char) :
    scan q before (s ++ x :: rest) =
      scan q before s ++ scan (q ^^ decide (s.count '"' % 2 = 1)) none (x :: rest) := by
  obtain ⟨hword, hafter⟩ := hx
  -- What is read before the separator does not depend on what follows it.
  induction q, before, s using scan_induction with
  | nil q before =>
    rw [scan_nil, List.nil_append, scan_separator hword]
    simp
  | quote q before s ih =>
    have hflip : decide ((s.count '"' + 1) % 2 = 1) = !decide (s.count '"' % 2 = 1) := by
      rw [← decide_not, decide_eq_decide]
      omega
    rw [List.cons_append, scan_quote, scan_quote, ih, List.count_cons_self, hflip]
    simp
  | quoted before c s hc ih =>
    rw [List.cons_append, scan_quoted hc, scan_quoted hc, ih, List.count_cons_of_ne hc]
    rfl
  | other before c s hc hs ih =>
    have hs' : split? (c :: (s ++ x :: rest)) = none :=
      split?_eq_none_congr (takeWhile_append_separator hword (c :: s) rest) hs
    rw [List.cons_append, scan_of_split?_none hc hs, scan_of_split?_none hc hs', ih,
      List.count_cons_of_ne hc]
    rfl
  | token before s t after hs ih =>
    obtain ⟨ht, rfl, hdigit⟩ := split?_eq_some_iff.1 hs
    have hstop : ¬ (after ++ x :: rest).head?.any Char.isDigit := by
      have hx : ¬ (some x).any Char.isDigit := not_any_of_imp (fun _ => wordChar_of_isDigit) hword
      rwa [any_head?_append hx]
    rw [List.append_assoc, scan_of_split? (split?_append ht hstop), scan_of_split? hs, ih,
      List.count_append, ht.count_quote, Nat.zero_add, ofToken, ofToken, any_head?_append hafter]
    rfl

theorem ofText_qualified (hpre : pre.count '"' % 2 = 0) (ht : t.Spelled)
    (hpost : ¬ post.head?.any Char.isDigit) :
    ofText (pre ++ '!' :: (t.toChars ++ post)) =
      ofText pre ++ other ['!'] :: other t.toChars :: scan false t.digits.getLast? post := by
  have hmark : Separates '!' := by decide
  rw [ofText, scan_append hmark, hpre]
  have hsplit := split?_append ht hpost
  have htoken : scan false (some '!') (t.toChars ++ post) =
      other t.toChars :: scan false t.digits.getLast? post := by
    rw [scan_of_split? hsplit, ofToken, if_pos (by simp [gluesBefore])]
  rw [← htoken]
  exact congrArg _ (scan_of_split?_none (by decide) (split?_separator hmark.1))

theorem scan_second_corner (hu : u.Spelled) (hd : u.cell? = some d)
    (hrest : ¬ rest.head?.any gluesAfter) :
    scan false before (':' :: (u.toChars ++ rest)) =
      other [':'] :: reference u d :: scan false u.digits.getLast? rest := by
  have hcolon : Separates ':' := by decide
  have hdigit := not_any_of_imp (fun _ => gluesAfter_of_isDigit) hrest
  have hpiece : ofToken (some ':') rest.head? u = reference u d :=
    ofToken_eq_reference_iff.2 ⟨rfl, by decide, hrest, hd⟩
  rw [scan_of_split?_none (by decide) (split?_separator hcolon.1),
    scan_of_split? (split?_append hu hdigit), hpiece]

/-- A sheet name protects the token behind it and nothing else. -/
theorem shiftReferences_qualified (axis : Axis) (start count : Nat) {formula : String}
    (hf : formula.toList = pre ++ '!' :: (t.toChars ++ post)) (hpre : pre.count '"' % 2 = 0)
    (ht : t.Spelled) (hpost : ¬ post.head?.any Char.isDigit) :
    (shiftReferences axis start count formula).toList =
        movedText axis start count (ofText pre) ++ '!' :: (t.toChars ++
          movedText axis start count (scan false t.digits.getLast? post)) ∧
      ∀ (u : RefToken) (d : CellRef) (rest : List Char), post = ':' :: (u.toChars ++ rest) →
        u.Spelled → u.cell? = some d → ¬ rest.head?.any gluesAfter →
          movedText axis start count (scan false t.digits.getLast? post) =
            ':' :: ((u.shift axis start count d).toChars ++
              movedText axis start count (scan false u.digits.getLast? rest)) := by
  constructor
  · rw [toList_shiftReferences, hf, ofText_qualified hpre ht hpost, movedText_append]
    rfl
  · rintro u d rest rfl hu hd hrest
    rw [scan_second_corner hu hd hrest]
    rfl

theorem shiftReferences_qualified_sample :
    (shiftReferences .column 1 1 "Sheet2!A1:B2").toList = "Sheet2!A1:C2".toList := by
  have hf : "Sheet2!A1:B2".toList =
      "Sheet2".toList ++ '!' :: ((short 'A' '1').toChars ++ ":B2".toList) := rfl
  obtain ⟨htext, hcorner⟩ := shiftReferences_qualified .column 1 1 hf (by decide)
    (spelled_short (by decide) (by decide)) (by decide)
  rw [htext, hcorner (short 'B' '2') ⟨1, 1⟩ [] rfl (spelled_short (by decide) (by decide))
    (by decide) (by decide)]
  cbv

theorem not_qualified_unchanged :
    ¬ ∀ (axis : Axis) (start count : Nat) (name : List Char) (t u : RefToken),
      (∀ x ∈ name, x.isAlphanum) → t.Spelled → u.Spelled →
        (shiftReferences axis start count
          (String.ofList (name ++ '!' :: (t.toChars ++ ':' :: u.toChars)))).toList =
            name ++ '!' :: (t.toChars ++ ':' :: u.toChars) := by
  intro h
  have hname : ∀ x ∈ ['S', 'h', 'e', 'e', 't', '2'], x.isAlphanum := by simp
  have hcorner := h .column 1 1 _ (short 'A' '1') (short 'B' '2') hname
    (spelled_short (by decide) (by decide)) (spelled_short (by decide) (by decide))
  have hmoved : (shiftReferences .column 1 1 (String.ofList (['S', 'h', 'e', 'e', 't', '2'] ++
      '!' :: ((short 'A' '1').toChars ++ ':' :: (short 'B' '2').toChars)))).toList =
        "Sheet2!A1:C2".toList := by
    cbv
  rw [hmoved] at hcorner
  revert hcorner
  decide

end Piece

end SheetTemplate
