import Mathlib.Data.List.Forall2
import SheetTemplate.Proofs.Rescan

namespace SheetTemplate.Piece

open RefToken

variable {axis : Axis} {start count : Nat} {q : Bool} {before : Option Char} {x : Char}
  {s rest done pre mid post w : List Char} {t u : RefToken} {c d : CellRef} {p : Piece}
  {ps : List Piece}

/-- In the text `s` the token `t` stands between `pre` and `post` as a reference to `c`. -/
structure Occurs (s pre : List Char) (t : RefToken) (c : CellRef) (post : List Char) : Prop where
  text : s = pre ++ (t.toChars ++ post)
  spelled : t.Spelled
  cell : t.cell? = some c
  /-- No string literal is open, doubled quotes inside one counting as two. -/
  outside : pre.count '"' % 2 = 0
  before : ¬ pre.getLast?.any gluesBefore
  after : ¬ post.head?.any gluesAfter

def At (ps : List Piece) (pre : List Char) (t : RefToken) (c : CellRef) (post : List Char) : Prop :=
  ∃ front back, ps = front ++ reference t c :: back ∧ text front = pre ∧ text back = post

/-- The pieces make up the text and hold exactly its references. -/
structure Reads (s : List Char) (ps : List Piece) : Prop where
  text : text ps = s
  occurs : ∀ pre t c post, At ps pre t c post ↔ Occurs s pre t c post

theorem not_at_nil : ¬ At [] pre t c post := by
  rintro ⟨front, back, h, -⟩
  exact List.append_ne_nil_of_right_ne_nil front (List.cons_ne_nil _ _) h.symm

theorem at_cons_iff :
    At (p :: ps) pre t c post ↔
      (pre = [] ∧ p = reference t c ∧ text ps = post) ∨
        ∃ mid, pre = p.toChars ++ mid ∧ At ps mid t c post := by
  constructor
  · rintro ⟨front, back, h, rfl, rfl⟩
    cases front with
    | nil =>
      obtain ⟨rfl, rfl⟩ := List.cons.inj h
      exact .inl ⟨rfl, rfl, rfl⟩
    | cons p' front =>
      obtain ⟨rfl, rfl⟩ := List.cons.inj h
      exact .inr ⟨text front, text_cons .., front, back, rfl, rfl, rfl⟩
  · rintro (⟨rfl, rfl, rfl⟩ | ⟨mid, rfl, front, back, rfl, rfl, rfl⟩)
    · exact ⟨[], ps, rfl, rfl, rfl⟩
    · exact ⟨p :: front, back, rfl, text_cons .., rfl⟩

theorem at_other_iff :
    At (other w :: ps) pre t c post ↔ ∃ mid, pre = w ++ mid ∧ At ps mid t c post := by
  rw [at_cons_iff]
  constructor
  · rintro (⟨-, h, -⟩ | h)
    · cases h
    · exact h
  · exact .inr

theorem Occurs.not_isDigit (h : Occurs s pre t c post) : ¬ post.head?.any Char.isDigit :=
  not_any_of_imp (fun _ => gluesAfter_of_isDigit) h.after

/-- A reference at the front is the token that is read there. -/
theorem Occurs.split? (h : Occurs (done ++ s) done t c post) : split? s = some (t, post) := by
  have hs := List.append_cancel_left h.text
  rw [hs]
  exact split?_append h.spelled h.not_isDigit

theorem occurs_char_iff (hfirst : ∀ t c post, ¬ Occurs (done ++ x :: rest) done t c post) :
    Occurs (done ++ x :: rest) (done ++ mid) t c post ↔
      ∃ mid', mid = [x] ++ mid' ∧
        Occurs ((done ++ [x]) ++ rest) ((done ++ [x]) ++ mid') t c post := by
  have hwhole : done ++ x :: rest = (done ++ [x]) ++ rest := by simp
  constructor
  · intro h
    cases mid with
    | nil =>
      rw [List.append_nil] at h
      exact (hfirst _ _ _ h).elim
    | cons y mid =>
      have htext := List.append_cancel_left (h.text.trans (List.append_assoc ..))
      obtain ⟨rfl, -⟩ := List.cons.inj htext
      exact ⟨mid, rfl, by simpa using h⟩
  · rintro ⟨mid', rfl, h⟩
    simpa using h

theorem occurs_token_iff (hs : split? s = some (u, rest)) :
    Occurs (done ++ s) (done ++ mid) t c post ↔
      (mid = [] ∧ t = u ∧ rest = post ∧ Occurs (done ++ s) done t c post) ∨
        ∃ mid', mid = u.toChars ++ mid' ∧
          Occurs ((done ++ u.toChars) ++ rest) ((done ++ u.toChars) ++ mid') t c post := by
  obtain ⟨hu, hwhole, -⟩ := split?_eq_some_iff.1 hs
  constructor
  · intro h
    have htext := List.append_cancel_left (h.text.trans (List.append_assoc ..))
    rw [← hwhole] at htext
    rcases List.append_eq_append_iff.1 htext with ⟨mid', rfl, -⟩ | ⟨w, hw, -⟩
    · refine .inr ⟨mid', rfl, ?_⟩
      rw [List.append_assoc, List.append_assoc, hwhole]
      exact h
    · -- A reference cannot begin inside a token: the token's characters glue.
      rcases List.eq_nil_or_concat mid with rfl | ⟨mid', y, rfl⟩
      · rw [List.append_nil] at h
        have hsplit := h.split?
        rw [hs] at hsplit
        cases hsplit
        exact .inl ⟨rfl, rfl, rfl, h⟩
      · have hy : y ∈ u.toChars := by
          rw [hw]
          simp
        have hlast : (done ++ mid'.concat y).getLast? = some y := by simp
        refine absurd ?_ h.before
        rw [hlast]
        exact glues_of_wordChar (hu.wordChar hy)
  · rintro (⟨rfl, -, -, h⟩ | ⟨mid', rfl, h⟩)
    · rwa [List.append_nil]
    · rwa [List.append_assoc, List.append_assoc, hwhole] at h

structure Scanned (done : List Char) (q : Bool) (before : Option Char) : Prop where
  parity : done.count '"' % 2 = if q then 1 else 0
  before : q = false → before.any gluesBefore = done.getLast?.any gluesBefore

theorem scanned_nil : Scanned [] false none := ⟨rfl, fun _ => rfl⟩

theorem Scanned.quote (h : Scanned done q before) : Scanned (done ++ ['"']) (!q) none := by
  constructor
  · have hparity := h.parity
    rw [List.count_append, List.count_singleton_self]
    cases q <;> simp_all <;> omega
  · intro _
    rw [List.getLast?_append]
    rfl

theorem Scanned.quoted (h : Scanned done true before) (hx : x ≠ '"') :
    Scanned (done ++ [x]) true none := by
  constructor
  · rw [List.count_append, List.count_singleton, if_neg (by simpa using hx)]
    exact h.parity
  · rintro ⟨⟩

theorem Scanned.char (h : Scanned done false before) (hx : x ≠ '"') :
    Scanned (done ++ [x]) false (some x) := by
  constructor
  · rw [List.count_append, List.count_singleton, if_neg (by simpa using hx)]
    exact h.parity
  · intro _
    simp

theorem Scanned.token (h : Scanned done false before) (ht : t.Spelled) :
    Scanned (done ++ t.toChars) false t.digits.getLast? := by
  constructor
  · rw [List.count_append, ht.count_quote]
    exact h.parity
  · intro _
    congr 1
    obtain ⟨digits, y, hdigits⟩ := (List.eq_nil_or_concat t.digits).resolve_left ht.digits_ne_nil
    simp [RefToken.toChars, hdigits]

theorem at_scan_iff (q : Bool) (before : Option Char) (s done : List Char)
    (h : Scanned done q before) (mid : List Char) (t : RefToken) (c : CellRef) (post : List Char) :
    At (scan q before s) mid t c post ↔ Occurs (done ++ s) (done ++ mid) t c post := by
  -- Along the scan: `Scanned` holds all that an occurrence asks of the text before it.
  induction q, before, s using scan_induction generalizing done mid with
  | nil q before =>
    rw [scan_nil]
    refine iff_of_false not_at_nil fun hoccurs => ?_
    have htext := List.append_cancel_left (hoccurs.text.trans (List.append_assoc ..))
    obtain ⟨rfl, -⟩ := List.append_eq_nil_iff.1 htext.symm
    rw [List.append_nil done] at hoccurs
    cases Occurs.split? (s := []) (by rwa [List.append_nil])
  | quote q before rest ih =>
    rw [scan_quote, at_other_iff, occurs_char_iff]
    · simp only [ih _ h.quote]
    · intro t c post hoccurs
      cases hoccurs.split?
  | quoted before x rest hx ih =>
    rw [scan_quoted hx, at_other_iff, occurs_char_iff]
    · simp only [ih _ (h.quoted hx)]
    · intro t c post hoccurs
      have hparity := h.parity
      rw [hoccurs.outside] at hparity
      cases hparity
  | other before x rest hx hs ih =>
    rw [scan_of_split?_none hx hs, at_other_iff, occurs_char_iff]
    · simp only [ih _ (h.char hx)]
    · intro t c post hoccurs
      rw [hoccurs.split?] at hs
      cases hs
  | token before s u rest hs ih =>
    obtain ⟨hu, hwhole, -⟩ := split?_eq_some_iff.1 hs
    rw [scan_of_split? hs, at_cons_iff, occurs_token_iff hs, toChars_ofToken]
    simp only [ih _ (h.token hu)]
    rw [ofToken_eq_reference_iff, text_scan, h.before rfl]
    -- Only the first case is left: the token read here is meant, and its neighbours let it be.
    apply or_congr_left
    constructor
    · rintro ⟨rfl, ⟨rfl, hbefore, hafter, hcell⟩, rfl⟩
      exact ⟨rfl, rfl, rfl, by rw [hwhole], hu, hcell, h.parity, hbefore, hafter⟩
    · rintro ⟨rfl, rfl, rfl, hoccurs⟩
      exact ⟨rfl, ⟨rfl, hoccurs.before, hoccurs.after, hoccurs.cell⟩, rfl⟩

theorem reads_ofText (s : List Char) : Reads s (ofText s) :=
  ⟨text_ofText s, at_scan_iff false none s [] scanned_nil⟩

theorem reference_mem_ofText_iff :
    reference t c ∈ ofText s ↔ ∃ pre post, Occurs s pre t c post := by
  have hoccurs := (reads_ofText s).occurs
  constructor
  · intro hmem
    obtain ⟨front, back, hsplit⟩ := List.append_of_mem hmem
    exact ⟨text front, text back, (hoccurs ..).1 ⟨front, back, hsplit, rfl, rfl⟩⟩
  · rintro ⟨pre, post, h⟩
    obtain ⟨front, back, hsplit, -⟩ := (hoccurs pre t c post).2 h
    rw [hsplit]
    exact List.mem_append_right _ List.mem_cons_self

/-- What becomes of a piece: other text stays, and so does a reference in front of the insertion; a
reference that moves keeps its dollar signs and spells its new cell. -/
inductive Follows (axis : Axis) (start count : Nat) : Piece → Piece → Prop where
  | other (w : List Char) : Follows axis start count (other w) (other w)
  | reference {t t' : RefToken} {c : CellRef}
    (colFixed : t'.colFixed = t.colFixed) (rowFixed : t'.rowFixed = t.rowFixed)
    (stays : axis.coordinate c < start → t' = t)
    (moves : start ≤ axis.coordinate c →
      t'.letters ++ t'.digits = (c.shift axis start count).toChars) :
    Follows axis start count (reference t c) (reference t' (c.shift axis start count))

theorem follows_shift (axis : Axis) (start count : Nat) (p : Piece) :
    Follows axis start count p (p.shift axis start count) := by
  cases p with
  | other w => exact .other w
  | reference t c =>
    by_cases hstays : axis.coordinate c < start
    · have ht : t.shift axis start count c = t := if_pos hstays
      exact .reference (by rw [ht]) (by rw [ht]) (fun _ => ht) fun h => absurd hstays (by omega)
    · rw [shift, RefToken.shift, if_neg hstays]
      exact .reference rfl rfl (fun h => absurd h hstays) fun _ => rfl

/-- The references of a formula follow an insertion, and its other text stays. -/
theorem shiftReferences_reads (axis : Axis) (start count : Nat) (formula : String)
    (hw : ∀ pre t c post, Occurs formula.toList pre t c post → start ≤ axis.coordinate c →
      axis.Writable (axis.coordinate c + count)) :
    Reads formula.toList (ofText formula.toList) ∧
      Reads (shiftReferences axis start count formula).toList
        (ofText (shiftReferences axis start count formula).toList) ∧
      List.Forall₂ (Follows axis start count) (ofText formula.toList)
        (ofText (shiftReferences axis start count formula).toList) := by
  refine ⟨reads_ofText _, reads_ofText _, ?_⟩
  rw [ofText_shiftReferences]
  · rw [List.forall₂_map_right_iff, List.forall₂_same]
    exact fun p _ => follows_shift axis start count p
  · intro t c hmem hmoves
    obtain ⟨pre, post, hoccurs⟩ := reference_mem_ofText_iff.1 hmem
    exact hw pre t c post hoccurs hmoves

example : shiftReferences .row 1 2 "A1+$b02&\"B2\"" = "A1+$B4&\"B2\"" := by cbv

theorem writable_sample (pre : List Char) (t : RefToken) (c : CellRef) (post : List Char)
    (h : Occurs "A1+$b02".toList pre t c post) (hmoves : 1 ≤ c.row) :
    Axis.row.Writable (c.row + 2) := by
  have hpieces : ofText "A1+$b02".toList =
      [reference ⟨false, ['A'], false, ['1']⟩ ⟨0, 0⟩, other ['+'],
        reference ⟨true, ['b'], false, ['0', '2']⟩ ⟨1, 1⟩] := by
    cbv
  have hmem := reference_mem_ofText_iff.2 ⟨pre, post, h⟩
  simp only [hpieces, List.mem_cons, reference.injEq, List.not_mem_nil, reduceCtorEq] at hmem
  rcases hmem with ⟨-, rfl⟩ | hmem | ⟨-, rfl⟩ | hmem
  · cases hmoves
  · cases hmem
  · exact show 1 + 2 + 1 ≤ Number.greatestNat64 by decide
  · cases hmem

theorem shiftReferences_reads_sample :
    (∀ pre t c post, Occurs "A1+$b02".toList pre t c post → 1 ≤ c.row →
      Axis.row.Writable (c.row + 2)) ∧
    List.Forall₂ (Follows .row 1 2) (ofText "A1+$b02".toList)
      (ofText (shiftReferences .row 1 2 "A1+$b02").toList) :=
  ⟨writable_sample, (shiftReferences_reads .row 1 2 "A1+$b02" writable_sample).2.2⟩

end SheetTemplate.Piece
