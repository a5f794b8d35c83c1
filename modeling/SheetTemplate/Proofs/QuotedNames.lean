import SheetTemplate.Proofs.Qualified

namespace SheetTemplate.Piece

open RefToken

variable {axis : Axis} {start count : Nat} {q : Bool} {before : Option Char}
  {s pre name post rest : List Char} {t u : RefToken} {d : CellRef} {ps : List Piece}

def unclosed (s : List Char) : Bool := decide (s.count '"' % 2 = 1)

theorem unclosed_append (s rest : List Char) :
    unclosed (s ++ rest) = (unclosed s ^^ unclosed rest) := by
  unfold unclosed
  rw [List.count_append]
  rcases Nat.mod_two_eq_zero_or_one (s.count '"') with hs | hs <;>
    rcases Nat.mod_two_eq_zero_or_one (rest.count '"') with hrest | hrest <;>
      simp [Nat.add_mod, hs, hrest]

def piecesAfter (front s : List Char) : List Piece := scan (unclosed front) none s

/-- Inside a string literal the character before the text does not matter. -/
theorem scan_unclosed (before before' : Option Char) (s : List Char) :
    scan true before s = scan true before' s := by
  cases s with
  | nil => rw [scan_nil, scan_nil]
  | cons c s =>
    by_cases hc : c = '"'
    · rw [hc, scan_quote, scan_quote]
    · rw [scan_quoted hc, scan_quoted hc]

/-- Text of a string literal stays up to its end. -/
theorem movedText_literal (hs : s.count '"' = 0) (before : Option Char) (rest : List Char) :
    movedText axis start count (scan true before (s ++ rest)) =
      s ++ movedText axis start count (scan true before rest) := by
  induction s generalizing before with
  | nil => rfl
  | cons c s ih =>
    rw [List.count_cons] at hs
    have hc : c ≠ '"' := by
      rintro rfl
      simp at hs
    rw [List.cons_append, scan_quoted hc, movedText_char, ih (by omega), scan_unclosed none before]
    rfl

/-- A separator that glues to nothing only cuts the text. -/
theorem movedText_separator {x : Char} (hx : Separates x) (hquote : x ≠ '"') (hbefore : ¬ gluesBefore x)
    (q : Bool) (s : List Char) :
    movedText axis start count (scan q none (x :: s)) =
      x :: movedText axis start count (scan q none s) := by
  cases q with
  | true => rw [scan_quoted hquote, movedText_char]
  | false =>
    have hglues : (some x).any gluesBefore = (none : Option Char).any gluesBefore := by
      simpa using hbefore
    rw [scan_of_split?_none hquote (split?_separator hx.1), movedText_char, scan_congr_before hglues]

/-- A token behind an exclamation mark stays. -/
theorem movedText_marked (ht : t.Spelled) (hpost : ¬ post.head?.any Char.isDigit) (q : Bool) :
    movedText axis start count (scan q none ('!' :: (t.toChars ++ post))) =
      '!' :: (t.toChars ++ movedText axis start count (scan q t.digits.getLast? post)) := by
  cases q with
  | true =>
    rw [scan_quoted (by decide), movedText_char, movedText_literal ht.count_quote,
      scan_unclosed none t.digits.getLast?]
  | false =>
    have hmark : ¬ wordChar '!' := by decide
    rw [scan_of_split?_none (by decide) (split?_separator hmark), movedText_char,
      scan_of_split? (split?_append ht hpost), movedText_cons, ofToken,
      if_pos (by simp [gluesBefore])]
    rfl

/-- Pieces come out as they are as long as their references stand before the insertion. -/
theorem movedText_of_before (h : ∀ u d, reference u d ∈ ps → axis.coordinate d < start) :
    movedText axis start count ps = text ps := by
  induction ps with
  | nil => rfl
  | cons p ps ih =>
    have hp : p.shift axis start count = p := by
      cases p with
      | other => rfl
      | reference u d =>
        have hd := h u d List.mem_cons_self
        rw [shift, RefToken.shift, if_pos hd, CellRef.shift_of_lt hd]
    rw [movedText_cons, text_cons, hp, ih fun u d hmem => h u d (List.mem_cons_of_mem _ hmem)]

/-- A text comes out as it is just in case all its references stand before the insertion. -/
theorem movedText_scan_eq_iff (hcount : 0 < count) (hw : Movable axis start count (scan q before s)) :
    movedText axis start count (scan q before s) = s ↔
      ∀ u d, reference u d ∈ scan q before s → axis.coordinate d < start := by
  constructor
  · intro hsame u d hmem
    have hmap : (scan q before s).map (shift axis start count) = scan q before s := by
      rw [← scan_movedText q before s hw, hsame]
    have hpiece : (reference u d).shift axis start count = reference u d :=
      List.map_inj_left.1 (hmap.trans (List.map_id _).symm) _ hmem
    have hcell := (reference.inj hpiece).2
    by_contra hmoves
    have hcoordinate := congrArg axis.coordinate hcell
    rw [CellRef.coordinate_shift, shiftIndex_of_le (Nat.le_of_not_lt hmoves)] at hcoordinate
    omega
  · intro h
    rw [movedText_of_before h, text_scan]

/-- Around a quoted sheet name everything is read as if the quotes were not there, except for the
token behind the name. The name stays if all references in it stand before the insertion, and only
then; the second corner of a range moves. -/
theorem shiftReferences_quotedName (axis : Axis) (start count : Nat) {formula : String}
    (hf : formula.toList = pre ++ '\'' :: (name ++ '\'' :: '!' :: (t.toChars ++ post)))
    (ht : t.Spelled) (hpost : ¬ post.head?.any Char.isDigit) :
    (shiftReferences axis start count formula).toList =
        movedText axis start count (ofText pre) ++ '\'' ::
          (movedText axis start count (piecesAfter pre name) ++ '\'' :: '!' :: (t.toChars ++
            movedText axis start count (scan (unclosed (pre ++ name)) t.digits.getLast? post))) ∧
      ((∀ u d, reference u d ∈ piecesAfter pre name → axis.coordinate d < start) →
        movedText axis start count (piecesAfter pre name) = name) ∧
      (0 < count → Movable axis start count (piecesAfter pre name) →
        movedText axis start count (piecesAfter pre name) = name →
          ∀ u d, reference u d ∈ piecesAfter pre name → axis.coordinate d < start) ∧
      ∀ (u : RefToken) (d : CellRef) (rest : List Char), unclosed (pre ++ name) = false →
        post = ':' :: (u.toChars ++ rest) → u.Spelled → u.cell? = some d →
          ¬ rest.head?.any gluesAfter →
            movedText axis start count (scan (unclosed (pre ++ name)) t.digits.getLast? post) =
              ':' :: ((u.shift axis start count d).toChars ++
                movedText axis start count (scan false u.digits.getLast? rest)) := by
  have hquote : Separates '\'' := by decide
  have hscan (q : Bool) (s rest : List Char) :
      movedText axis start count (scan q none (s ++ '\'' :: rest)) =
        movedText axis start count (scan q none s) ++
          '\'' :: movedText axis start count (scan (q ^^ unclosed s) none rest) := by
    rw [scan_append hquote, movedText_append, movedText_separator hquote (by decide) (by decide)]
    rfl
  refine ⟨?_, fun h => ?_, fun hcount hw hsame => ?_, ?_⟩
  · rw [toList_shiftReferences, hf, ofText, hscan, Bool.false_xor, hscan, ← unclosed_append,
      movedText_marked ht hpost]
    rfl
  · rw [movedText_of_before h, piecesAfter, text_scan]
  · exact (movedText_scan_eq_iff hcount hw).1 hsame
  · rintro u d rest hclosed rfl hu hd hrest
    rw [hclosed, scan_second_corner hu hd hrest]
    rfl

/-- The name stays, since its first word stands before the insertion; the range is torn apart. -/
theorem shiftReferences_quotedName_sample :
    (shiftReferences .column 1 1 "'A1 x'!B2:C3").toList = "'A1 x'!B2:D3".toList := by
  have hf : "'A1 x'!B2:C3".toList =
      [] ++ '\'' :: ("A1 x".toList ++ '\'' :: '!' :: ((short 'B' '2').toChars ++ ":C3".toList)) := rfl
  have hpieces : piecesAfter [] "A1 x".toList =
      [reference (short 'A' '1') ⟨0, 0⟩, other [' '], other ['x']] := by
    cbv
  have hbefore : ∀ u d, reference u d ∈ piecesAfter [] "A1 x".toList → Axis.column.coordinate d < 1 := by
    intro u d hmem
    simp only [hpieces, List.mem_cons, reference.injEq, List.not_mem_nil, reduceCtorEq, or_false] at hmem
    rw [hmem.2]
    decide
  obtain ⟨htext, hname, -, hcorner⟩ := shiftReferences_quotedName .column 1 1 hf
    (spelled_short (by decide) (by decide)) (by decide)
  rw [htext, hname hbefore, hcorner (short 'C' '3') ⟨2, 2⟩ [] rfl rfl
    (spelled_short (by decide) (by decide)) (by decide) (by decide)]
  cbv

example : shiftReferences .column 1 1 "'a\"b'!B2+C3" = "'a\"b'!B2+C3" := by cbv

theorem not_quotedName_unchanged :
    ¬ ∀ (axis : Axis) (start count : Nat) (name : List Char) (t : RefToken),
      (∀ x ∈ name, x.isAlphanum) → t.Spelled →
        (shiftReferences axis start count
          (String.ofList ('\'' :: (name ++ '\'' :: '!' :: t.toChars)))).toList =
            '\'' :: (name ++ '\'' :: '!' :: t.toChars) := by
  intro h
  have hquarter := h .column 1 1 ['Q', '1'] (short 'A' '1') (by simp)
    (spelled_short (by decide) (by decide))
  have hmoved : (shiftReferences .column 1 1 (String.ofList ('\'' :: (['Q', '1'] ++
      '\'' :: '!' :: (short 'A' '1').toChars)))).toList = "'R1'!A1".toList := by
    cbv
  rw [hmoved] at hquarter
  revert hquarter
  decide

end SheetTemplate.Piece
