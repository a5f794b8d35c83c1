namespace SheetTemplate

variable {α : Type}

theorem getElem?_kept {l l' : List α} {i : Nat} {a : α} (h : l <+: l') (hi : l[i]? = some a) :
    l'[i]? = some a := by
  obtain ⟨more, rfl⟩ := h
  rw [List.getElem?_append_left (List.getElem?_eq_some_iff.1 hi).1, hi]

variable [BEq α]

def intern (l : List α) (a : α) : Nat × List α :=
  match l.findIdx? (· == a) with
  | some i => (i, l)
  | none => (l.length, l ++ [a])

/-- The table grows only if none of its entries equals the new one. -/
theorem intern_snd (l : List α) (a : α) :
    (intern l a).2 = if ∃ b ∈ l, (b == a) = true then l else l ++ [a] := by
  unfold intern
  split
  case h_1 i hi =>
    obtain ⟨hlt, heq, -⟩ := List.findIdx?_eq_some_iff_getElem.1 hi
    rw [if_pos ⟨l[i], List.getElem_mem hlt, heq⟩]
  case h_2 hi =>
    rw [if_neg]
    rintro ⟨b, hb, heq⟩
    exact Bool.eq_false_iff.1 (List.findIdx?_eq_none_iff.1 hi b hb) heq

theorem prefix_intern (l : List α) (a : α) : l <+: (intern l a).2 := by
  rw [intern_snd]
  split
  · exact List.prefix_refl l
  · exact List.prefix_append l [a]

theorem getElem?_intern (l : List α) (a : α) :
    ∃ b, (intern l a).2[(intern l a).1]? = some b ∧ (b = a ∨ (b == a) = true) := by
  unfold intern
  split
  case h_1 i hi =>
    obtain ⟨hlt, heq, -⟩ := List.findIdx?_eq_some_iff_getElem.1 hi
    exact ⟨l[i], List.getElem?_eq_getElem hlt, .inr heq⟩
  case h_2 => exact ⟨a, List.getElem?_concat_length, .inl rfl⟩

end SheetTemplate
