import Mathlib.Data.List.Forall2
import SheetTemplate.Proofs.Spelling
import SheetTemplate.Script.Language

namespace SheetTemplate.Script

open Source Number

theorem exists_range_of_covers {r : Text.Ranges} {n : Nat} (h : r.covers n) :
    ∃ p ∈ r, p.1 ≤ n ∧ n ≤ p.2 := by
  induction r with
  | nil => cases h
  | cons p r ih =>
    obtain ⟨lo, hi⟩ := p
    rw [Text.Ranges.covers] at h
    split at h
    · cases h
    · rename_i hlo
      split at h
      · rename_i hhi
        exact ⟨(lo, hi), List.mem_cons_self, Nat.le_of_not_lt hlo, hhi⟩
      · obtain ⟨p, hp, hbounds⟩ := ih h
        exact ⟨p, List.mem_cons_of_mem _ hp, hbounds⟩

def spaceRanges : Text.Ranges := (0xFEFF, 0xFEFF) :: Text.blankRanges

def noSpaces (r : Text.Ranges) : Bool :=
  spaceRanges.all fun p => (List.range' p.1 (p.2 + 1 - p.1)).all fun n => !r.covers n

theorem noSpaces_idStart : noSpaces Text.idStartRanges := by decide +kernel

theorem noSpaces_idContinue : noSpaces Text.idContinueRanges := by decide +kernel

variable {c : Char} {r : Text.Ranges}

theorem exists_range_of_isSpace (h : isSpace c) :
    ∃ p ∈ spaceRanges, p.1 ≤ c.toNat ∧ c.toNat ≤ p.2 := by
  rw [isSpace, Bool.or_eq_true, beq_iff_eq, Bool.and_eq_true] at h
  rcases h with h | ⟨h, -⟩
  · exact ⟨_, List.mem_cons_self, h.ge, h.le⟩
  · obtain ⟨p, hp, hbounds⟩ := exists_range_of_covers h
    exact ⟨p, List.mem_cons_of_mem _ hp, hbounds⟩

theorem not_covers_of_isSpace (hr : noSpaces r) (h : isSpace c) : ¬ r.covers c.toNat := by
  obtain ⟨p, hp, hlo, hhi⟩ := exists_range_of_isSpace h
  have hrange : c.toNat ∈ List.range' p.1 (p.2 + 1 - p.1) := List.mem_range'_1.2 ⟨hlo, by omega⟩
  simpa using List.all_eq_true.1 (List.all_eq_true.1 hr p hp) _ hrange

theorem not_isIdStart_of_isSpace (h : isSpace c) : ¬ Text.isIdStart c :=
  not_covers_of_isSpace noSpaces_idStart h

theorem not_isSpace_of_isNameStart (h : isNameStart c) : ¬ isSpace c := by
  rw [isNameStart, Bool.or_eq_true, Bool.or_eq_true, beq_iff_eq, beq_iff_eq] at h
  rcases h with (rfl | rfl) | h
  · decide
  · decide
  · exact fun hspace => not_isIdStart_of_isSpace hspace h

theorem not_isNamePart_of_isSpace (h : isSpace c) : ¬ isNamePart c := by
  simp only [isNamePart, Text.isIdContinue, Bool.or_eq_true, beq_iff_eq]
  rintro (((rfl | rfl) | rfl) | hstart | hcontinue)
  · exact absurd h (by decide)
  · exact absurd h (by decide)
  · exact absurd h (by decide)
  · exact not_isIdStart_of_isSpace h hstart
  · exact not_covers_of_isSpace noSpaces_idContinue h hcontinue

/-- An escape of a character, without the backslash, tells its code point. -/
inductive Escapes (c : Char) : List Char → Prop
  | four {ds : List Char} (length : ds.length = 4) (value : readHex? ds = some c.toNat) :
      Escapes c ('u' :: ds)
  | braced {ds : List Char} (value : readHex? ds = some c.toNat) :
      Escapes c ('u' :: '\x7b' :: (ds ++ ['\x7d']))

inductive Writes (c : Char) : List Char → Prop
  | plain : Writes c [c]
  | escaped {e : List Char} (escape : Escapes c e) : Writes c ('\\' :: e)

def IsIdentifier (w : List Char) : Prop := ∃ c s, w = c :: s ∧ isNameStart c ∧ ∀ d ∈ s, isNamePart d

variable {n fuel : Nat} {s rest ds w cs : List Char} {ws : List (List Char)}

theorem ofPoint?_eq_some_iff : ofPoint? n = some c ↔ n = c.toNat := by
  rw [ofPoint?, Option.ite_none_right_eq_some, Option.some.injEq]
  constructor
  · rintro ⟨h, rfl⟩
    rw [Char.toNat_ofNat, if_pos h]
  · rintro rfl
    exact ⟨c.valid, Char.ofNat_toNat c⟩

theorem lt_of_hexValue? {d : Char} {v : Nat} (h : hexValue? d = some v) : v < 16 := by
  have hzero : '0'.toNat = 48 := rfl
  have hlower : 'a'.toNat = 97 := rfl
  have hupper : 'A'.toNat = 65 := rfl
  unfold hexValue? at h
  simp only [Bool.and_eq_true, decide_eq_true_eq, Char.le_def, UInt32.le_iff_toNat_le] at h
  split at h
  · rename_i hdigit
    have hbounds := isDigit_iff.1 hdigit
    obtain rfl := Option.some.inj h
    omega
  · split at h
    · rename_i hbounds
      have hhigh : d.toNat ≤ 102 := hbounds.2
      obtain rfl := Option.some.inj h
      omega
    · obtain ⟨⟨-, hhigh⟩, h⟩ := Option.ite_none_right_eq_some.1 h
      have hhigh : d.toNat ≤ 70 := hhigh
      obtain rfl := Option.some.inj h
      omega

theorem isDigitOf_of_readHex? (h : readHex? ds = some n) : ∀ d ∈ ds, isDigitOf 16 d := by
  rw [readHex?, Option.ite_none_left_eq_some] at h
  obtain ⟨-, h⟩ := h
  induction ds using List.reverseRecOn generalizing n with
  | nil => simp
  | append_singleton ds d ih =>
    rw [List.foldl_append, List.foldl_cons, List.foldl_nil] at h
    obtain ⟨m, hm, h⟩ := Option.bind_eq_some_iff.1 h
    obtain ⟨v, hv, -⟩ := Option.bind_eq_some_iff.1 h
    have hdigit : isDigitOf 16 d := by
      rw [isDigitOf, hv]
      exact decide_eq_true (lt_of_hexValue? hv)
    exact List.forall_mem_append.2 ⟨ih hm, by simpa using hdigit⟩

theorem readBraced?_eq_some_iff :
    readBraced? s = some (c, rest) ↔
      ∃ ds, readHex? ds = some c.toNat ∧ s = ds ++ '\x7d' :: rest := by
  constructor
  · intro h
    obtain ⟨n, hn, h⟩ := Option.bind_eq_some_iff.1 h
    split at h
    · rename_i rest' hrest
      obtain ⟨c', hc, heq⟩ := Option.map_eq_some_iff.1 h
      obtain ⟨rfl, rfl⟩ := Prod.mk.inj heq
      rw [ofPoint?_eq_some_iff.1 hc] at hn
      exact ⟨_, hn, by rw [← hrest, List.takeWhile_append_dropWhile]⟩
    · cases h
  · rintro ⟨ds, hvalue, rfl⟩
    have hdigits := isDigitOf_of_readHex? hvalue
    have hstop : ¬ ('\x7d' :: rest).head?.any (isDigitOf 16) :=
      show ¬ isDigitOf 16 '\x7d' from by decide
    rw [readBraced?, takeWhile_append_stop hdigits hstop, hvalue,
      dropWhile_append_stop hdigits hstop]
    exact Option.map_eq_some_iff.2 ⟨c, ofPoint?_eq_some_iff.2 rfl, rfl⟩

theorem readHex4?_eq_some_iff :
    JsonText.readHex4? s = some (n, rest) ↔
      ∃ ds, ds.length = 4 ∧ readHex? ds = some n ∧ s = ds ++ rest := by
  constructor
  · intro h
    unfold JsonText.readHex4? at h
    split at h
    · rename_i a b c d s
      obtain ⟨m, hm, heq⟩ := Option.map_eq_some_iff.1 h
      obtain ⟨rfl, rfl⟩ := Prod.mk.inj heq
      exact ⟨[a, b, c, d], rfl, hm, rfl⟩
    · cases h
  · rintro ⟨ds, hlength, hvalue, rfl⟩
    obtain ⟨a, b, c, d, rfl⟩ := List.length_eq_four.1 hlength
    exact Option.map_eq_some_iff.2 ⟨n, hvalue, rfl⟩

theorem nameEscape?_eq_some_iff :
    nameEscape? s = some (c, rest) ↔ ∃ e, Escapes c e ∧ s = e ++ rest := by
  constructor
  · intro h
    unfold nameEscape? at h
    split at h
    · obtain ⟨ds, hvalue, rfl⟩ := readBraced?_eq_some_iff.1 h
      exact ⟨_, .braced hvalue, by simp⟩
    · obtain ⟨⟨n, t⟩, hn, h⟩ := Option.bind_eq_some_iff.1 h
      obtain ⟨c', hc, heq⟩ := Option.map_eq_some_iff.1 h
      obtain ⟨rfl, rfl⟩ := Prod.mk.inj heq
      obtain ⟨ds, hlength, hvalue, rfl⟩ := readHex4?_eq_some_iff.1 hn
      rw [ofPoint?_eq_some_iff.1 hc] at hvalue
      exact ⟨_, .four hlength hvalue, rfl⟩
    · cases h
  · rintro ⟨e, he, rfl⟩
    cases he with
    | @four ds hlength hvalue =>
      have hbrace : ∀ t, ds ++ rest = '\x7b' :: t → False := by
        obtain ⟨a, b, c', d, rfl⟩ := List.length_eq_four.1 hlength
        rintro t ht
        obtain ⟨rfl, -⟩ := List.cons.inj ht
        exact absurd (isDigitOf_of_readHex? hvalue _ List.mem_cons_self) (by decide)
      rw [List.cons_append, nameEscape?.eq_2 _ hbrace]
      exact Option.bind_eq_some_iff.2 ⟨_, readHex4?_eq_some_iff.2 ⟨ds, hlength, hvalue, rfl⟩,
        Option.map_eq_some_iff.2 ⟨c, ofPoint?_eq_some_iff.2 rfl, rfl⟩⟩
    | braced hvalue =>
      rw [List.cons_append, List.cons_append, List.append_assoc]
      exact readBraced?_eq_some_iff.2 ⟨_, hvalue, rfl⟩

theorem exists_writes_of_nameChar? (h : nameChar? s = some (c, rest)) :
    ∃ w, Writes c w ∧ s = w ++ rest := by
  cases s with
  | nil => cases h
  | cons d s =>
    rw [nameChar?] at h
    split at h
    · rename_i hbackslash
      obtain ⟨e, he, rfl⟩ := nameEscape?_eq_some_iff.1 h
      exact ⟨_, .escaped he, by rw [hbackslash]; rfl⟩
    · obtain ⟨rfl, rfl⟩ := Prod.mk.inj (Option.some.inj h)
      exact ⟨_, .plain, rfl⟩

theorem nameChar?_of_ne (h : c ≠ '\\') : nameChar? (c :: rest) = some (c, rest) := if_neg h

theorem nameChar?_of_writes (hw : Writes c w) (h : c ≠ '\\') :
    nameChar? (w ++ rest) = some (c, rest) := by
  cases hw with
  | plain => exact nameChar?_of_ne h
  | escaped he => exact nameEscape?_eq_some_iff.2 ⟨_, he, rfl⟩

theorem Writes.ne_nil (h : Writes c w) : w ≠ [] := by
  cases h <;> exact List.cons_ne_nil _ _

theorem isNamePart_backslash : ¬ isNamePart '\\' := by decide

theorem isNameStart_backslash : ¬ isNameStart '\\' := by decide

theorem length_le_flatten (h : List.Forall₂ Writes cs ws) : cs.length ≤ ws.flatten.length := by
  induction h with
  | nil => exact Nat.le_refl _
  | cons hw _ ih =>
    have hpos := List.length_pos_of_ne_nil hw.ne_nil
    simp only [List.flatten_cons, List.length_append, List.length_cons]
    omega

def Stops (s : List Char) : Prop := ∀ c t, nameChar? s = some (c, t) → ¬ isNamePart c

theorem spec_of_readNameParts (hfuel : s.length ≤ fuel)
    (h : readNameParts fuel s = (cs, rest)) :
    (∀ c ∈ cs, isNamePart c) ∧ (∃ ws, List.Forall₂ Writes cs ws ∧ s = ws.flatten ++ rest) ∧
      Stops rest := by
  induction fuel generalizing s cs with
  | zero =>
    obtain rfl := List.length_eq_zero_iff.1 (Nat.le_zero.1 hfuel)
    obtain ⟨rfl, rfl⟩ := Prod.mk.inj h
    exact ⟨by simp, ⟨[], .nil, rfl⟩, fun _ _ hchar => nomatch hchar⟩
  | succ fuel ih =>
    rw [readNameParts] at h
    split at h
    · rename_i hchar
      obtain ⟨rfl, rfl⟩ := Prod.mk.inj h
      exact ⟨by simp, ⟨[], .nil, rfl⟩, fun _ _ hsome => nomatch hchar.symm.trans hsome⟩
    · rename_i c t hchar
      split at h
      · rename_i hpart
        obtain ⟨rfl, hrest⟩ := Prod.mk.inj h
        obtain ⟨w, hw, rfl⟩ := exists_writes_of_nameChar? hchar
        have hpos := List.length_pos_of_ne_nil hw.ne_nil
        rw [List.length_append] at hfuel
        obtain ⟨hparts, ⟨ws, hws, ht⟩, hstops⟩ := ih (by omega) (Prod.ext rfl hrest)
        refine ⟨List.forall_mem_cons.2 ⟨hpart, hparts⟩, ⟨w :: ws, .cons hw hws, ?_⟩, hstops⟩
        rw [ht, List.flatten_cons, List.append_assoc]
      · rename_i hpart
        obtain ⟨rfl, rfl⟩ := Prod.mk.inj h
        refine ⟨by simp, ⟨[], .nil, rfl⟩, fun d u hchar' => ?_⟩
        obtain ⟨rfl, -⟩ := Prod.mk.inj (Option.some.inj (hchar.symm.trans hchar'))
        exact hpart

theorem readNameParts_eq (hfuel : cs.length ≤ fuel) (hcs : ∀ c ∈ cs, isNamePart c)
    (hws : List.Forall₂ Writes cs ws) (hrest : Stops rest) :
    readNameParts fuel (ws.flatten ++ rest) = (cs, rest) := by
  induction hws generalizing fuel with
  | nil =>
    cases fuel with
    | zero => rfl
    | succ fuel =>
      rw [List.flatten_nil, List.nil_append, readNameParts]
      split
      · rfl
      · rename_i c t hchar
        rw [if_neg (hrest c t hchar)]
  | @cons c w cs ws hw _ ih =>
    obtain ⟨fuel, rfl⟩ := Nat.exists_eq_succ_of_ne_zero (Nat.ne_zero_of_lt hfuel)
    obtain ⟨hc, hcs⟩ := List.forall_mem_cons.1 hcs
    have hne : c ≠ '\\' := fun hbackslash => isNamePart_backslash (hbackslash ▸ hc)
    rw [List.flatten_cons, List.append_assoc, readNameParts, nameChar?_of_writes hw hne]
    dsimp only
    rw [if_pos hc, ih (Nat.le_of_succ_le_succ hfuel) hcs]

/-- A name is read off the front of the input exactly as far as it goes. -/
theorem readName?_eq_some_iff :
    readName? s = some (w, rest) ↔
      IsIdentifier w ∧ (∃ ws, List.Forall₂ Writes w ws ∧ s = ws.flatten ++ rest) ∧ Stops rest := by
  constructor
  · intro h
    obtain ⟨⟨c, t⟩, hchar, h⟩ := Option.bind_eq_some_iff.1 h
    obtain ⟨hstart, h⟩ := Option.ite_none_right_eq_some.1 h
    rcases htail : readNameParts t.length t with ⟨cs, rest'⟩
    rw [htail] at h
    obtain ⟨rfl, rfl⟩ := Prod.mk.inj (Option.some.inj h)
    obtain ⟨hparts, ⟨ws, hws, ht⟩, hstops⟩ := spec_of_readNameParts (Nat.le_refl _) htail
    obtain ⟨w, hw, rfl⟩ := exists_writes_of_nameChar? hchar
    refine ⟨⟨c, _, rfl, hstart, hparts⟩, ⟨w :: ws, .cons hw hws, ?_⟩, hstops⟩
    rw [ht, List.flatten_cons, List.append_assoc]
  · rintro ⟨⟨c, cs, rfl, hstart, hparts⟩, ⟨_, hall, rfl⟩, hstops⟩
    obtain ⟨v, ws, hv, hws, rfl⟩ := List.forall₂_cons_left_iff.1 hall
    have hne : c ≠ '\\' := fun hbackslash => isNameStart_backslash (hbackslash ▸ hstart)
    have hlength : cs.length ≤ (ws.flatten ++ rest).length := by
      rw [List.length_append]
      exact Nat.le_add_right_of_le (length_le_flatten hws)
    rw [readName?, List.flatten_cons, List.append_assoc, nameChar?_of_writes hv hne]
    simp only [Option.bind_eq_bind, Option.bind_some]
    rw [if_pos hstart, readNameParts_eq hlength hparts hws hstops]

theorem skip?_of_not_mem {s : List Char} (h : '/' ∉ s) : skip? s = some (s.dropWhile isSpace) := by
  have hfront : comment? (s.dropWhile isSpace) = none := by
    have hslash : '/' ∉ s.dropWhile isSpace := fun hmem => h ((List.dropWhile_sublist _).mem hmem)
    unfold comment?
    split
    · rename_i hs
      exact absurd (hs ▸ List.mem_cons_self) hslash
    · rename_i hs
      exact absurd (hs ▸ List.mem_cons_self) hslash
    · rfl
  rw [skip?, skipTrivia?, hfront]

theorem dropWhile_append_sign_iff {s : List Char} :
    (s ++ ['=']).dropWhile isSpace = ['='] ↔ ∀ c ∈ s, isSpace c := by
  constructor
  · intro h
    induction s with
    | nil => simp
    | cons c s ih =>
      have hc : isSpace c := by
        by_contra hc
        rw [List.cons_append, List.dropWhile_cons_of_neg hc] at h
        simpa using congrArg List.length h
      rw [List.cons_append, List.dropWhile_cons_of_pos hc] at h
      exact List.forall_mem_cons.2 ⟨hc, ih h⟩
  · intro h
    exact dropWhile_append_stop h (by decide)

/-- A word that a constant can be declared under. -/
structure IsConstantName (name : String) : Prop where
  identifier : IsIdentifier name.toList
  declarable : isDeclarable name

/-- The key is the name as it may be written, with nothing around it but blanks. -/
structure Spells (key name : String) : Prop where
  isConstantName : IsConstantName name
  written : ∃ (left right : List Char) (ws : List (List Char)), (∀ c ∈ left ++ right, isSpace c) ∧
    List.Forall₂ Writes name.toList ws ∧ key.toList = left ++ ws.flatten ++ right

theorem IsConstantName.spells {name : String} (h : IsConstantName name) : Spells name name := by
  refine ⟨h, [], [], name.toList.map fun c => [c], by simp, ?_, by simp [← List.flatMap_def]⟩
  rw [List.forall₂_map_right_iff, List.forall₂_same]
  exact fun c _ => .plain

theorem stops_of_spaces (h : ∀ c ∈ s, isSpace c) : Stops s := by
  intro c t hchar
  cases s with
  | nil => cases hchar
  | cons d s =>
    have hd := h d List.mem_cons_self
    have hne : d ≠ '\\' := by
      rintro rfl
      exact absurd hd (by decide)
    obtain ⟨rfl, -⟩ := Prod.mk.inj (Option.some.inj ((nameChar?_of_ne hne).symm.trans hchar))
    exact not_isNamePart_of_isSpace hd

theorem not_isSpace_head?_written (hw : IsIdentifier w) (hws : List.Forall₂ Writes w ws)
    (s : List Char) : ¬ (ws.flatten ++ s).head?.any isSpace := by
  obtain ⟨c, cs, rfl, hstart, -⟩ := hw
  obtain ⟨v, ws, hv, -, rfl⟩ := List.forall₂_cons_left_iff.1 hws
  cases hv with
  | plain => exact not_isSpace_of_isNameStart hstart
  | escaped => exact show ¬ isSpace '\\' from by decide

theorem declaredName?_eq_some_iff {key name : String} (h : '/' ∉ key.toList) :
    declaredName? key = some name ↔ Spells key name := by
  rw [declaredName?, skip?_of_not_mem h, Option.bind_eq_bind, Option.bind_some]
  constructor
  · intro hname
    obtain ⟨⟨w, rest⟩, hread, hname⟩ := Option.bind_eq_some_iff.1 hname
    obtain ⟨hw, ⟨ws, hws, hfront⟩, -⟩ := readName?_eq_some_iff.1 hread
    have hrest : '/' ∉ rest ++ ['='] := by
      have hback : rest <:+ key.toList :=
        .trans ⟨_, hfront.symm⟩ (List.dropWhile_suffix _)
      simpa using fun hmem => h (hback.mem hmem)
    dsimp only at hname
    rw [skip?_of_not_mem hrest] at hname
    split at hname
    · rename_i hsign
      obtain ⟨hdeclarable, hname⟩ := Option.ite_none_right_eq_some.1 hname
      obtain rfl := Option.some.inj hname
      rw [← String.toList_ofList (l := w)] at hw hws
      refine ⟨⟨hw, hdeclarable⟩, key.toList.takeWhile isSpace, rest, ws, ?_, hws, ?_⟩
      · exact List.forall_mem_append.2 ⟨fun c hc => List.mem_takeWhile_imp hc,
          dropWhile_append_sign_iff.1 (Option.some.inj hsign)⟩
      · rw [List.append_assoc, ← hfront, List.takeWhile_append_dropWhile]
    · cases hname
  · rintro ⟨⟨hname, hdeclarable⟩, left, right, ws, hspaces, hws, hkey⟩
    obtain ⟨hleft, hright⟩ := List.forall_mem_append.1 hspaces
    have hfront : key.toList.dropWhile isSpace = ws.flatten ++ right := by
      rw [hkey, List.append_assoc]
      exact dropWhile_append_stop hleft (not_isSpace_head?_written hname hws right)
    have hread := readName?_eq_some_iff.2 ⟨hname, ⟨ws, hws, hfront⟩, stops_of_spaces hright⟩
    have hback : '/' ∉ right ++ ['='] := by
      have hright : '/' ∉ right := fun hmem => h (by simp [hkey, hmem])
      simpa using hright
    rw [hread, Option.bind_eq_bind, Option.bind_some]
    dsimp only
    rw [skip?_of_not_mem hback, dropWhile_append_sign_iff.2 hright, String.ofList_toList]
    exact if_pos hdeclarable

example :
    declaredName? " col·lecció" = some "col·lecció" ∧ declaredName? "\\u0061b" = some "ab" ∧
      declaredName? "aⓐ" = none := by
  decide +kernel

/-- Before an equals sign the key can be nothing but a name: it has no such sign in it, and opens no
pattern and no comment. -/
def isPlain (key : String) : Bool :=
  !key.toList.contains '=' &&
    !(key.toList.dropWhile isSpace).head?.any ['[', '\x7b'].contains &&
    key.toList.tails.all fun s => !"<!--".toList.isPrefixOf s && !"-->".toList.isPrefixOf s

end SheetTemplate.Script
