import SheetTemplate.Proofs.MarkupValues
import SheetTemplate.Xlsx.Cells
import SheetTemplate.Xlsx.Writing

namespace SheetTemplate.Xlsx

open Xml

def spelled (s : String) : String := spell 0 s.toList

def isMarkup (s : String) : Bool := s.startsWith "<r>" && s.endsWith "</r>"

theorem toList_ne_nil {s : String} (h : s ≠ "") : s.toList ≠ [] := by
  intro hnil
  exact h (String.toList_injective (hnil.trans (by rfl)))

theorem spellChar_ne_nil (c : Char) : (spellChar c).toList ≠ [] := by
  unfold spellChar
  split <;> simp [String.toList_append]

theorem spelled_ne_nil {s : String} (h : s ≠ "") : (spelled s).toList ≠ [] := by
  obtain ⟨c, rest, hs⟩ := List.exists_cons_of_ne_nil (toList_ne_nil h)
  unfold spelled
  rw [hs, spell]
  split
  case isTrue => simp [String.toList_append]
  case isFalse =>
    rw [String.toList_append]
    exact List.append_ne_nil_of_left_ne_nil (spellChar_ne_nil c) _

def spaceAttributes (s : String) : List (String × String) :=
  if s.toList.head?.any isEdgeBlank || s.toList.getLast?.any isEdgeBlank then
    [("xml:space", "preserve")]
  else []

def itemEvents (s : String) : List Event :=
  [.start (tagOf "si" []), .start (tagOf "t" (spaceAttributes s)),
    .text (utf8 (escaped (spelled s).toList)), .stop "t", .stop "si"]

theorem escape_ne_nil {s : String} (h : s.toList ≠ []) : (escape s).toList ≠ [] := by
  have hlength := length_le_flatMap escapeChar_ne_nil s.toList
  rw [toList_escape]
  intro hnil
  rw [show s.toList.flatMap (fun c => (escapeChar c).toList) = [] from hnil] at hlength
  exact h (List.length_eq_zero_iff.1 (Nat.le_zero.1 hlength))

theorem not_mem_escape (s : String) : '<' ∉ (escape s).toList := by
  rw [toList_escape]
  exact not_mem_escaped _

theorem prints_stringItem {s : String} (h : s ≠ "") (hmarkup : isMarkup s = false) :
    Prints [stringItem s] (itemEvents s) := by
  have hspace : areNames (spaceAttributes s) = true := by
    unfold spaceAttributes
    split <;> decide
  have hitem : stringItem s =
      element "si" [] [element "t" (spaceAttributes s) [escape (spelled s)]] := by
    unfold stringItem
    rw [if_neg]
    · rfl
    · exact Bool.eq_false_iff.1 hmarkup
  have htext := Prints.leaf (show isName "t" = true by decide) hspace
    (escape_ne_nil (spelled_ne_nil h)) (not_mem_escape _)
  rw [toList_escape] at htext
  rw [hitem]
  exact htext.element (by decide) rfl

theorem readText?_escaped (name s : String) (rest : List Event) :
    readText? name (.text (utf8 (escaped s.toList)) :: .stop name :: rest) = some (s, rest) := by
  rw [readText?, value?_escaped, String.ofList_toList, readText?, if_pos rfl]
  simp

theorem readString?_item (s : String) (fuel : Nat) (rest : List Event) :
    readString? "si" (fuel + 1) none false (.start (tagOf "t" (spaceAttributes s)) ::
      .text (utf8 (escaped (spelled s).toList)) :: .stop "t" :: .stop "si" :: rest) =
        some (some (spelled s), rest) := by
  have hname : localName "t" = "t" := by decide
  rw [readString?]
  simp only [tagOf_name, hname]
  rw [if_neg (by decide), readText?_escaped]
  simp only [Option.bind_eq_bind, Option.bind_some, skipElement?, if_true]
  rfl

theorem length_itemEvents (texts : List String) :
    (texts.flatMap itemEvents).length = 5 * texts.length := by
  induction texts with
  | nil => rfl
  | cons s texts ih =>
    rw [List.flatMap_cons, List.length_append, ih, List.length_cons]
    change 5 + _ = _
    omega

theorem sharedStrings?_items (texts : List String) (fuel : Nat) :
    sharedStrings? (fuel + texts.length + 1) (texts.flatMap itemEvents ++ [.stop "sst"]) =
      some (texts.map spelled) := by
  have hitem : localName "si" = "si" := by decide
  have hend : localName "sst" = "sst" := by decide
  induction texts with
  | nil =>
    rw [List.flatMap_nil, List.nil_append, sharedStrings?, if_pos hend]
    rfl
  | cons s texts ih =>
    change sharedStrings? (fuel + (texts.length + 1) + 1) (.start (tagOf "si" []) ::
      .start (tagOf "t" (spaceAttributes s)) :: .text (utf8 (escaped (spelled s).toList)) ::
        .stop "t" :: .stop "si" :: (texts.flatMap itemEvents ++ [.stop "sst"])) = _
    rw [← Nat.add_assoc fuel, sharedStrings?, tagOf_name, if_pos hitem, readString?_item]
    change (sharedStrings? (fuel + texts.length + 1) _).bind _ = _
    rw [ih]
    rfl

theorem sharedStrings?_document {texts : List String}
    (h : ∀ s ∈ texts, s ≠ "" ∧ isMarkup s = false) (fuel : Nat)
    (hfuel : (lenientEvents (utf8 (stringsPart texts).toList)).length < fuel) :
    sharedStrings? fuel (lenientEvents (utf8 (stringsPart texts).toList)) =
      some (texts.map spelled) := by
  have hattributes : areNames [("xmlns", mainNamespace), ("uniqueCount", Number.natText texts.length)] =
      true := by
    simp +decide [areNames]
  have hitems : Prints (texts.map stringItem) (texts.flatMap itemEvents) :=
    .map fun s hs => prints_stringItem (h s hs).1 (h s hs).2
  have hevents := (hitems.element (show isName "sst" = true by decide) hattributes).document.1
  unfold stringsPart at hfuel ⊢
  rw [hevents] at hfuel ⊢
  have hlength := length_itemEvents texts
  obtain ⟨n, rfl⟩ : ∃ n, fuel = n + texts.length + 1 + 1 + 1 := by
    simp only [List.length_cons, List.length_append, hlength, List.length_nil] at hfuel
    exact ⟨fuel - (texts.length + 3), by omega⟩
  rw [sharedStrings?, List.cons_append, sharedStrings?, tagOf_name, if_neg (by decide)]
  exact sharedStrings?_items texts n

end SheetTemplate.Xlsx
