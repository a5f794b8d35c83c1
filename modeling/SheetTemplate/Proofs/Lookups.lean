namespace SheetTemplate

variable {α β : Type} [BEq α] [LawfulBEq α] {l l' : List (α × β)} {a : α} {b : β}

theorem lookup_of_mem (h : (l.map (·.1)).Nodup) (hmem : (a, b) ∈ l) : l.lookup a = some b := by
  induction l with
  | nil => cases hmem
  | cons p l ih =>
    rw [List.map_cons, List.nodup_cons] at h
    rcases List.mem_cons.1 hmem with rfl | hmem
    · exact List.lookup_cons_self
    · have hne : (a == p.1) = false := by
        rw [beq_eq_false_iff_ne]
        rintro rfl
        exact h.1 (List.mem_map.2 ⟨_, hmem, rfl⟩)
      rw [List.lookup_cons, hne]
      exact ih h.2 hmem

theorem lookup_of_not_mem (h : a ∉ l.map (·.1)) : l.lookup a = none := by
  rw [List.lookup_eq_none_iff]
  intro e he
  rw [bne_iff_ne]
  exact fun heq => h (heq ▸ List.mem_map_of_mem he)

theorem lookup_eq_of_perm (h : (l.map (·.1)).Nodup) (hperm : l.Perm l') :
    l.lookup a = l'.lookup a := by
  have h' : (l'.map (·.1)).Nodup := (hperm.map _).nodup_iff.1 h
  by_cases hmem : a ∈ l.map (·.1)
  · obtain ⟨⟨a, b⟩, hab, rfl⟩ := List.mem_map.1 hmem
    rw [lookup_of_mem h hab, lookup_of_mem h' (hperm.mem_iff.1 hab)]
  · have hmem' : a ∉ l'.map (·.1) := mt (hperm.map _).mem_iff.2 hmem
    rw [lookup_of_not_mem hmem, lookup_of_not_mem hmem']

theorem lookup_reverse_of_mem (h : (l.map (·.1)).Nodup) (hmem : (a, b) ∈ l) :
    l.reverse.lookup a = some b := by
  rw [← lookup_eq_of_perm h (List.reverse_perm l).symm, lookup_of_mem h hmem]

end SheetTemplate
