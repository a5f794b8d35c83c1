import SheetTemplate.Proofs.MarkupTokens
import SheetTemplate.Xlsx.Fields

namespace SheetTemplate.Xml

/-- A reference stands for its character. -/
theorem unescapeFrom?_reference (d : Discipline) (fuel : Nat) {name : List Char} {c : Char}
    (hname : name.all (fun x => x != ';' && x != '&') = true) (hc : reference? d name = some c)
    (rest : List Char) :
    unescapeFrom? d (fuel + 1) ('&' :: (name ++ ';' :: rest)) =
      (unescapeFrom? d fuel rest).map (c :: ·) := by
  have htake : (name ++ ';' :: rest).takeWhile (fun x => x != ';' && x != '&') = name := by
    rw [List.takeWhile_append_of_pos (List.all_eq_true.1 hname),
      List.takeWhile_cons_of_neg (by simp), List.append_nil]
  rw [unescapeFrom?, if_neg (by simp)]
  dsimp only
  rw [htake, List.drop_left, hc]
  change (unescapeFrom? d fuel rest).bind (fun text => some (c :: text)) = _
  rw [Option.map_eq_bind]
  rfl

theorem unescapeFrom?_escapeChar (d : Discipline) (fuel : Nat) (c : Char) (rest : List Char) :
    unescapeFrom? d (fuel + 1) ((escapeChar c).toList ++ rest) =
      (unescapeFrom? d fuel rest).map (c :: ·) := by
  fun_cases escapeChar c
  case case1 => exact @unescapeFrom?_reference d fuel "amp".toList _ (by decide) rfl rest
  case case2 => exact @unescapeFrom?_reference d fuel "lt".toList _ (by decide) rfl rest
  case case3 => exact @unescapeFrom?_reference d fuel "gt".toList _ (by decide) rfl rest
  case case4 => exact @unescapeFrom?_reference d fuel "quot".toList _ (by decide) rfl rest
  case case5 h _ _ _ =>
    rw [Char.toString_eq_singleton, String.toList_singleton, List.singleton_append, unescapeFrom?,
      if_pos h]

theorem unescapeFrom?_escaped (d : Discipline) {s : List Char} {fuel : Nat}
    (hfuel : s.length ≤ fuel) : unescapeFrom? d fuel (escaped s) = some s := by
  induction s generalizing fuel with
  | nil => cases fuel <;> rfl
  | cons c s ih =>
    obtain ⟨fuel, rfl⟩ := Nat.exists_eq_add_of_le' (Nat.le_trans (Nat.le_add_left 1 _) hfuel)
    change unescapeFrom? d (fuel + 1) ((escapeChar c).toList ++ escaped s) = _
    rw [unescapeFrom?_escapeChar, ih (Nat.le_of_succ_le_succ hfuel)]
    rfl

theorem unescapeFrom?_escapedValue (d : Discipline) {s : List Char} {fuel : Nat}
    (hfuel : s.length ≤ fuel) : unescapeFrom? d fuel (escapedValue s) = some s := by
  induction s generalizing fuel with
  | nil => cases fuel <;> rfl
  | cons c s ih =>
    obtain ⟨fuel, rfl⟩ := Nat.exists_eq_add_of_le' (Nat.le_trans (Nat.le_add_left 1 _) hfuel)
    change unescapeFrom? d (fuel + 1)
      ((if c = '\n' then "&#10;" else escapeChar c).toList ++ escapedValue s) = _
    split
    case isTrue hc =>
      subst hc
      have hbreak := @unescapeFrom?_reference d fuel "#10".toList '\n' (by decide)
        (by cases d <;> rfl) (escapedValue s)
      rw [ih (Nat.le_of_succ_le_succ hfuel)] at hbreak
      exact hbreak
    case isFalse =>
      rw [unescapeFrom?_escapeChar, ih (Nat.le_of_succ_le_succ hfuel)]
      rfl

theorem length_le_flatMap {α : Type} {f : Char → List α} (h : ∀ c, f c ≠ []) (s : List Char) :
    s.length ≤ (s.flatMap f).length := by
  induction s with
  | nil => exact Nat.le_refl _
  | cons c s ih =>
    have := List.length_pos_iff.2 (h c)
    rw [List.flatMap_cons, List.length_append, List.length_cons]
    omega

theorem escapeChar_ne_nil (c : Char) : (escapeChar c).toList ≠ [] := by
  fun_cases escapeChar c <;> simp

theorem value?_escaped (d : Discipline) (s : List Char) :
    value? d (utf8 (escaped s)) = some (String.ofList s) := by
  have hlength : s.length ≤ (escaped s).length := length_le_flatMap escapeChar_ne_nil s
  unfold value? unescape?
  rw [decode?_utf8]
  change (unescapeFrom? d _ (String.ofList (escaped s)).toList).map _ = _
  rw [String.toList_ofList, unescapeFrom?_escaped]
  · rfl
  · rw [String.length_ofList]
    omega

theorem value?_escapedValue (d : Discipline) (s : List Char) :
    value? d (utf8 (escapedValue s)) = some (String.ofList s) := by
  have hlength : s.length ≤ (escapedValue s).length := by
    refine length_le_flatMap (fun c => ?_) s
    split
    · simp
    · exact escapeChar_ne_nil c
  unfold value? unescape?
  rw [decode?_utf8]
  change (unescapeFrom? d _ (String.ofList (escapedValue s)).toList).map _ = _
  rw [String.toList_ofList, unescapeFrom?_escapedValue]
  · rfl
  · rw [String.length_ofList]
    omega

def unmarked (s : List Char) : Bool := s.all fun c => c ∉ ['&', '<', '>', '"', '\n']

theorem flatMap_unmarked {f : Char → List Char} {s : List Char} (h : unmarked s = true)
    (hf : ∀ c ∉ ['&', '<', '>', '"', '\n'], f c = [c]) : s.flatMap f = s := by
  induction s with
  | nil => rfl
  | cons c s ih =>
    unfold unmarked at h ih
    rw [List.all_cons, Bool.and_eq_true, decide_eq_true_eq] at h
    rw [List.flatMap_cons, hf c h.1, ih h.2]
    rfl

theorem escapeChar_unmarked {c : Char} (h : c ∉ ['&', '<', '>', '"', '\n']) :
    (escapeChar c).toList = [c] := by
  fun_cases escapeChar c <;> simp_all

theorem escaped_unmarked {s : List Char} (h : unmarked s = true) : escaped s = s :=
  flatMap_unmarked h fun _ hc => escapeChar_unmarked hc

theorem escapedValue_unmarked {s : List Char} (h : unmarked s = true) : escapedValue s = s := by
  refine flatMap_unmarked h fun c hc => ?_
  have hline : c ≠ '\n' := by
    rintro rfl
    exact hc (by decide)
  rw [if_neg hline, escapeChar_unmarked hc]

/-- A name without a colon is its own local name. -/
theorem localName_plain {name : String} (h : ':' ∉ name.toList) : localName name = name := by
  have hall : ∀ c ∈ name.toList, (c != ':') = true := by
    intro c hc
    rw [bne_iff_ne]
    rintro rfl
    exact h hc
  have hdrop := @List.dropWhile_append_of_pos _ _ _ [] hall
  rw [List.append_nil] at hdrop
  unfold localName
  rw [hdrop]
  rfl

section

variable {name : String} {attributes : List (String × String)} (h : areNames attributes = true)

include h

theorem all?_tagOf :
    (tagOf name attributes).all? =
      some (attributes.map fun a => (a.1, utf8 (escapedValue a.2.toList))) := by
  unfold Tag.all?
  rw [attributeList_tagOf name h]
  clear h
  induction attributes with
  | nil => rfl
  | cons a attributes ih => rw [List.map_cons, allAttributes?, ih]; rfl

theorem find?_tagOf (key : String) :
    (tagOf name attributes).find? key =
      some ((attributes.lookup key).map fun v => utf8 (escapedValue v.toList)) := by
  unfold Tag.find?
  rw [attributeList_tagOf name h]
  clear h
  induction attributes with
  | nil => rfl
  | cons a attributes ih =>
    rw [List.map_cons, findAttribute?, ih, List.lookup_cons]
    by_cases hkey : a.1 = key
    · simp [hkey]
    · simp [hkey, beq_false_of_ne (Ne.symm hkey)]

end

end SheetTemplate.Xml

namespace SheetTemplate.Xlsx

open Xml

def Fields.written (attributes : List (String × String)) : Fields :=
  attributes.map fun a => (localName a.1, a.2)

theorem Fields.ofTag_tagOf {name : String} {attributes : List (String × String)}
    (h : areNames attributes = true) :
    Fields.ofTag (tagOf name attributes) = .ok (Fields.written attributes) := by
  unfold Fields.ofTag
  rw [attributeList_tagOf name h]
  clear h
  induction attributes with
  | nil => rfl
  | cons a attributes ih =>
    rw [List.map_cons, Fields.ofAttributes, value?_escapedValue, String.ofList_toList, ih]
    rfl

end SheetTemplate.Xlsx
