import SheetTemplate.Proofs.Spelling

namespace SheetTemplate.Piece

open RefToken

variable {axis : Axis} {start count : Nat} {quoted : Bool} {before before' after : Option Char}
  {c : Char} {s s' rest : List Char} {t : RefToken} {p : Piece} {ps : List Piece}

theorem text_cons (p : Piece) (ps : List Piece) : text (p :: ps) = p.toChars ++ text ps :=
  List.flatMap_cons

theorem scan_nil : scan quoted before [] = [] := by
  rw [scan]

theorem scan_quote :
    scan quoted before ('"' :: rest) = other ['"'] :: scan (!quoted) none rest := by
  rw [scan, if_pos rfl]

theorem scan_quoted (hc : c ≠ '"') :
    scan true before (c :: rest) = other [c] :: scan true none rest := by
  rw [scan, if_neg hc, if_pos rfl]

theorem scan_of_split?_none (hc : c ≠ '"') (h : split? (c :: rest) = none) :
    scan false before (c :: rest) = other [c] :: scan false (some c) rest := by
  rw [scan, if_neg hc, if_neg Bool.false_ne_true]
  split
  · rfl
  · rename_i hs
    rw [h] at hs
    cases hs

theorem scan_of_split? (h : split? s = some (t, rest)) :
    scan false before s = ofToken before rest.head? t :: scan false t.digits.getLast? rest := by
  cases s with
  | nil => cases h
  | cons c s =>
    have hc : c ≠ '"' := by
      rintro rfl
      cases h
    rw [scan, if_neg hc, if_neg Bool.false_ne_true]
    split
    · rename_i hs
      rw [h] at hs
      cases hs
    · rename_i hs
      rw [h] at hs
      cases hs
      rfl

/-- Of the character before a text the scan asks only whether it glues. -/
theorem scan_congr_before (h : before.any gluesBefore = before'.any gluesBefore) (quoted : Bool)
    (s : List Char) : scan quoted before s = scan quoted before' s := by
  cases s with
  | nil => rw [scan_nil, scan_nil]
  | cons c rest =>
    by_cases hc : c = '"'
    · subst hc
      rw [scan_quote, scan_quote]
    · cases quoted with
      | true => rw [scan_quoted hc, scan_quoted hc]
      | false =>
        cases hs : split? (c :: rest) with
        | none => rw [scan_of_split?_none hc hs, scan_of_split?_none hc hs]
        | some p => rw [scan_of_split? hs, scan_of_split? hs, ofToken, ofToken, h]

theorem ofToken_eq_reference_iff {t' : RefToken} {d : CellRef} :
    ofToken before after t = reference t' d ↔
      t' = t ∧ ¬ before.any gluesBefore ∧ ¬ after.any gluesAfter ∧ t.cell? = some d := by
  unfold ofToken
  by_cases hglued : before.any gluesBefore || after.any gluesAfter
  · rw [if_pos hglued]
    rw [Bool.or_eq_true] at hglued
    constructor
    · rintro ⟨⟩
    · rintro ⟨-, hbefore, hafter, -⟩
      exact (hglued.elim hbefore hafter).elim
  · rw [if_neg hglued]
    rw [Bool.or_eq_true, not_or] at hglued
    cases t.cell? with
    | none => simp
    | some c =>
      simp only [reference.injEq, Option.some.injEq]
      constructor
      · rintro ⟨rfl, rfl⟩
        exact ⟨rfl, hglued.1, hglued.2, rfl⟩
      · rintro ⟨rfl, -, -, rfl⟩
        exact ⟨rfl, rfl⟩

theorem ofToken_cases (before after : Option Char) (t : RefToken) :
    ofToken before after t = other t.toChars ∨ ∃ d, ofToken before after t = reference t d := by
  unfold ofToken
  split
  · exact .inl rfl
  · cases t.cell? with
    | none => exact .inl rfl
    | some d => exact .inr ⟨d, rfl⟩

theorem toChars_ofToken (before after : Option Char) (t : RefToken) :
    (ofToken before after t).toChars = t.toChars := by
  rcases ofToken_cases before after t with h | ⟨d, h⟩ <;> rw [h] <;> rfl

/-- Induction over the text as the scan goes through it. -/
@[elab_as_elim]
theorem scan_induction {motive : Bool → Option Char → List Char → Prop}
    (nil : ∀ quoted before, motive quoted before [])
    (quote : ∀ quoted before rest, motive (!quoted) none rest → motive quoted before ('"' :: rest))
    (quoted : ∀ before c rest, c ≠ '"' → motive true none rest → motive true before (c :: rest))
    (other : ∀ before c rest, c ≠ '"' → split? (c :: rest) = none →
      motive false (some c) rest → motive false before (c :: rest))
    (token : ∀ before s t rest, split? s = some (t, rest) →
      motive false t.digits.getLast? rest → motive false before s)
    (q : Bool) (before : Option Char) (s : List Char) : motive q before s := by
  induction q, before, s using scan.induct with
  | case1 q before => exact nil q before
  | case2 q before rest ih => exact quote q before rest ih
  | case3 before c rest hc ih => exact quoted before c rest hc ih
  | case4 q before c rest hc hq hs ih =>
    rw [Bool.not_eq_true] at hq
    exact hq ▸ other before c rest hc hs ih
  | case5 q before c rest hc hq t after hs ih =>
    rw [Bool.not_eq_true] at hq
    exact hq ▸ token before (c :: rest) t after hs ih

theorem text_scan (q : Bool) (before : Option Char) (s : List Char) :
    text (scan q before s) = s := by
  induction q, before, s using scan_induction with
  | nil => rw [scan_nil]; rfl
  | quote q before rest ih => rw [scan_quote, text_cons, ih]; rfl
  | quoted before c rest hc ih => rw [scan_quoted hc, text_cons, ih]; rfl
  | other before c rest hc hs ih => rw [scan_of_split?_none hc hs, text_cons, ih]; rfl
  | token before s t rest hs ih =>
    rw [scan_of_split? hs, text_cons, ih, toChars_ofToken]
    exact toChars_append_of_split? hs

theorem text_ofText (s : List Char) : text (ofText s) = s := text_scan false none s

def movedText (axis : Axis) (start count : Nat) (ps : List Piece) : List Char :=
  text (ps.map (shift axis start count))

theorem toList_shiftReferences (axis : Axis) (start count : Nat) (formula : String) :
    (shiftReferences axis start count formula).toList =
      movedText axis start count (ofText formula.toList) :=
  String.toList_ofList

theorem movedText_cons (p : Piece) (ps : List Piece) :
    movedText axis start count (p :: ps) =
      (p.shift axis start count).toChars ++ movedText axis start count ps :=
  text_cons _ _

theorem movedText_append (ps qs : List Piece) :
    movedText axis start count (ps ++ qs) =
      movedText axis start count ps ++ movedText axis start count qs := by
  rw [movedText, List.map_append]
  exact List.flatMap_append

theorem movedText_char (c : Char) (ps : List Piece) :
    movedText axis start count (other [c] :: ps) = c :: movedText axis start count ps :=
  rfl

theorem glues_of_wordChar (hc : wordChar c) : gluesBefore c := by
  unfold wordChar at hc
  unfold gluesBefore
  simp only [Bool.or_eq_true] at hc ⊢
  tauto

theorem gluesAfter_of_isDigit (hc : c.isDigit) : gluesAfter c := by
  simp [gluesAfter, Char.isAlphanum, hc]

theorem glues_getLast? (ht : t.Spelled) : t.digits.getLast?.any gluesBefore := by
  have hlast := List.getLast_mem ht.digits_ne_nil
  rw [List.getLast?_eq_some_getLast ht.digits_ne_nil]
  exact glues_of_wordChar (wordChar_of_isDigit (ht.digits _ hlast))

/-- Behind a glueing character everything up to the end of the word stays, and so does the next
character. -/
theorem movedText_of_glued (hglued : before.any gluesBefore) (s : List Char) :
    ∃ w u u', s = w ++ u ∧ movedText axis start count (scan false before s) = w ++ u' ∧
      (∀ x ∈ w, wordChar x) ∧ u'.head? = u.head? ∧ ¬ u.head?.any wordChar := by
  generalize hq : false = q
  induction q, before, s using scan_induction with
  | nil q before =>
    exact ⟨[], [], [], rfl, by rw [scan_nil]; rfl, by simp, rfl, by simp⟩
  | quote q before rest =>
    rw [scan_quote, movedText_char]
    exact ⟨[], '"' :: rest, _, rfl, rfl, by simp, rfl, show ¬ wordChar '"' by decide⟩
  | quoted => cases hq
  | other before c rest hc hs ih =>
    rw [scan_of_split?_none hc hs, movedText_char]
    by_cases hword : wordChar c
    · obtain ⟨w, u, u', hrest, hmoved, hw, hhead, hstop⟩ := ih (glues_of_wordChar hword) rfl
      refine ⟨c :: w, u, u', by rw [hrest]; rfl, by rw [hmoved]; rfl, ?_, hhead, hstop⟩
      exact List.forall_mem_cons.2 ⟨hword, hw⟩
    · exact ⟨[], c :: rest, _, rfl, rfl, by simp, rfl, hword⟩
  | token before s t rest hs ih =>
    have ht := spelled_of_split? hs
    rw [scan_of_split? hs, movedText_cons, ofToken, if_pos (by simp [hglued])]
    obtain ⟨w, u, u', hrest, hmoved, hw, hhead, hstop⟩ := ih (glues_getLast? ht) rfl
    refine ⟨t.toChars ++ w, u, u', ?_, ?_, ?_, hhead, hstop⟩
    · rw [List.append_assoc, ← hrest, toChars_append_of_split? hs]
    · rw [hmoved, List.append_assoc]
      rfl
    · exact List.forall_mem_append.2 ⟨fun x hx => ht.wordChar hx, hw⟩

theorem head?_movedText_of_glued (hglued : before.any gluesBefore) (s : List Char) :
    (movedText axis start count (scan false before s)).head? = s.head? := by
  obtain ⟨w, u, u', hs, hmoved, -, hhead, -⟩ := movedText_of_glued hglued s
  rw [hmoved, List.head?_append, hhead, ← List.head?_append, ← hs]

theorem takeWhile_movedText_of_glued (hglued : before.any gluesBefore) (s : List Char) :
    (movedText axis start count (scan false before s)).takeWhile wordChar =
      s.takeWhile wordChar := by
  obtain ⟨w, u, u', hs, hmoved, hw, hhead, hstop⟩ := movedText_of_glued hglued s
  rw [hmoved, takeWhile_append_stop hw (hhead ▸ hstop)]
  conv_rhs => rw [hs, takeWhile_append_stop hw hstop]

/-- Whether a token stands at the front is seen from the front word. -/
theorem split?_eq_none_congr (h : s'.takeWhile wordChar = s.takeWhile wordChar)
    (hs : split? s = none) : split? s' = none := by
  by_contra hne
  obtain ⟨⟨t, rest⟩, hs'⟩ := Option.ne_none_iff_exists'.1 hne
  obtain ⟨ht, rfl, hdigit⟩ := split?_eq_some_iff.1 hs'
  rw [List.takeWhile_append_of_pos fun x hx => ht.wordChar hx] at h
  have hsplit : t.toChars ++ (rest.takeWhile wordChar ++ s.dropWhile wordChar) = s := by
    rw [← List.append_assoc, h, List.takeWhile_append_dropWhile]
  have hstop : ¬ (rest.takeWhile wordChar ++ s.dropWhile wordChar).head?.any Char.isDigit := by
    have hdrop := not_any_of_imp (fun _ => wordChar_of_isDigit) (head?_dropWhile_stop wordChar s)
    cases rest with
    | nil => exact hdrop
    | cons c rest =>
      by_cases hword : wordChar c
      · rwa [List.takeWhile_cons_of_pos hword]
      · rwa [List.takeWhile_cons_of_neg hword]
  rw [← hsplit, split?_append ht hstop] at hs
  cases hs

/-- The piece of a token, moved, is the piece of a token between the same neighbours. -/
theorem exists_ofToken_eq_shift (ht : t.Spelled)
    (hw : ∀ c, ofToken before after t = reference t c → start ≤ axis.coordinate c →
      axis.Writable (axis.coordinate c + count)) :
    ∃ t' : RefToken, t'.Spelled ∧
      ((ofToken before after t).shift axis start count).toChars = t'.toChars ∧
      ofToken before after t' = (ofToken before after t).shift axis start count := by
  rcases ofToken_cases before after t with h | ⟨c, h⟩
  · exact ⟨t, ht, by rw [h]; rfl, by rw [h]; rfl⟩
  · obtain ⟨-, hbefore, hafter, hc⟩ := ofToken_eq_reference_iff.1 h
    obtain ⟨ht', hc'⟩ := spelled_shift ht hc (hw c h)
    refine ⟨t.shift axis start count c, ht', by rw [h]; rfl, ?_⟩
    rw [h]
    exact ofToken_eq_reference_iff.2 ⟨rfl, hbefore, hafter, hc'⟩

def Movable (axis : Axis) (start count : Nat) (ps : List Piece) : Prop :=
  ∀ t c, reference t c ∈ ps → start ≤ axis.coordinate c → axis.Writable (axis.coordinate c + count)

theorem Movable.tail (h : Movable axis start count (p :: ps)) : Movable axis start count ps :=
  fun t c hmem => h t c (List.mem_cons_of_mem _ hmem)

theorem scan_movedText (q : Bool) (before : Option Char) (s : List Char)
    (hw : Movable axis start count (scan q before s)) :
    scan q before (movedText axis start count (scan q before s)) =
      (scan q before s).map (shift axis start count) := by
  induction q, before, s using scan_induction with
  | nil =>
    rw [scan_nil]
    exact scan_nil
  | quote q before rest ih =>
    rw [scan_quote] at hw ⊢
    rw [movedText_char, List.map_cons, ← ih hw.tail]
    exact scan_quote
  | quoted before c rest hc ih =>
    rw [scan_quoted hc] at hw ⊢
    rw [movedText_char, List.map_cons, ← ih hw.tail]
    exact scan_quoted hc
  | other before c rest hc hs ih =>
    rw [scan_of_split?_none hc hs] at hw ⊢
    rw [movedText_char, List.map_cons, ← ih hw.tail]
    -- No token begins here: the word at the front decides that, and it stays as it is.
    refine scan_of_split?_none hc (split?_eq_none_congr ?_ hs)
    by_cases hword : wordChar c
    · have hglued : (some c).any gluesBefore := glues_of_wordChar hword
      rw [List.takeWhile_cons_of_pos hword, List.takeWhile_cons_of_pos hword,
        takeWhile_movedText_of_glued hglued]
    · rw [List.takeWhile_cons_of_neg hword, List.takeWhile_cons_of_neg hword]
  | token before s t rest hs ih =>
    rw [scan_of_split? hs] at hw ⊢
    obtain ⟨ht, -, hdigit⟩ := split?_eq_some_iff.1 hs
    have hglued := glues_getLast? ht
    have hhead : (movedText axis start count (scan false t.digits.getLast? rest)).head? =
        rest.head? := head?_movedText_of_glued hglued rest
    obtain ⟨t', ht', hchars, hpiece⟩ := exists_ofToken_eq_shift ht
      fun c h => hw t c (h ▸ List.mem_cons_self)
    rw [movedText_cons, List.map_cons, ← ih hw.tail, hchars,
      scan_of_split? (split?_append ht' (by rwa [hhead])), hhead, hpiece]
    -- The moved token ends in a digit as the old one does, so the rest is read alike.
    rw [scan_congr_before]
    rw [hglued, glues_getLast? ht']

/-- Reading a formula again after an insertion gives the moved pieces. -/
theorem ofText_shiftReferences (axis : Axis) (start count : Nat) (formula : String)
    (hw : Movable axis start count (ofText formula.toList)) :
    ofText (shiftReferences axis start count formula).toList =
      (ofText formula.toList).map (shift axis start count) := by
  rw [toList_shiftReferences]
  exact scan_movedText false none formula.toList hw

end SheetTemplate.Piece
