import Mathlib.Data.String.Basic
import SheetTemplate.Settings.Reading

namespace SheetTemplate

namespace Settings

variable {s : Settings} {key target : String}

/-- The keys ascend, so that each stands once. -/
def Ascending (aliases : Pairs) : Prop := aliases.Pairwise fun a a' => a.1 < a'.1

theorem mem_insertAlias? {l l' : Pairs} (h : insertAlias? key target l = some l')
    {a : String × String} (ha : a ∈ l') : a = (key, target) ∨ a ∈ l := by
  induction l generalizing l' with
  | nil =>
    cases h
    exact .inl (List.mem_singleton.1 ha)
  | cons b l ih =>
    rw [insertAlias?] at h
    split at h
    · cases h
    · split at h
      · cases h
        exact List.mem_cons.1 ha
      · obtain ⟨l'', hl, rfl⟩ := Option.map_eq_some_iff.1 h
        rcases List.mem_cons.1 ha with rfl | ha
        · simp
        · exact (ih hl ha).imp_right (List.mem_cons_of_mem _)

theorem Ascending.insertAlias? {l l' : Pairs} (hl : Ascending l)
    (h : insertAlias? key target l = some l') : Ascending l' := by
  induction l generalizing l' with
  | nil =>
    cases h
    exact List.pairwise_singleton _ _
  | cons b l ih =>
    obtain ⟨hb, hl⟩ := List.pairwise_cons.1 hl
    rw [Settings.insertAlias?] at h
    split at h
    case isTrue => cases h
    case isFalse hne =>
      split at h
      case isTrue hlt =>
        cases h
        refine List.pairwise_cons.2 ⟨fun a ha => ?_, List.pairwise_cons.2 ⟨hb, hl⟩⟩
        rcases List.mem_cons.1 ha with rfl | ha
        · exact hlt
        · exact hlt.trans (hb a ha)
      case isFalse hge =>
        obtain ⟨l'', hl'', rfl⟩ := Option.map_eq_some_iff.1 h
        refine List.pairwise_cons.2 ⟨fun a ha => ?_, ih hl hl''⟩
        rcases mem_insertAlias? hl'' ha with rfl | ha
        · exact lt_of_le_of_ne (not_lt.1 hge) (Ne.symm hne)
        · exact hb a ha

theorem Ascending.pairs? {fuel : Nat} {acc acc' : Pairs} {t t' : List Char} (hacc : Ascending acc)
    (h : pairs? fuel acc t = some (acc', t')) : Ascending acc' := by
  induction fuel generalizing acc t with
  | zero => cases h
  | succ fuel ih =>
    rw [Settings.pairs?] at h
    obtain ⟨⟨keys, u⟩, -, h⟩ := Option.bind_eq_some_iff.1 h
    split at h
    · obtain ⟨⟨target, v⟩, -, h⟩ := Option.bind_eq_some_iff.1 h
      obtain ⟨acc₁, hacc₁, h⟩ := Option.bind_eq_some_iff.1 h
      split at h
      · exact ih (hacc.insertAlias? hacc₁) h
      · cases h
        exact hacc.insertAlias? hacc₁
      · cases h
    · cases h

theorem ascending_table? {l : Pairs} {t t' : List Char} (h : table? t = some (l, t')) :
    Ascending l := by
  unfold table? at h
  split at h
  · split at h
    · cases h
      exact List.Pairwise.nil
    · exact Ascending.pairs? List.Pairwise.nil h
  · cases h

section

variable {d d' : Draft} {t t' : List Char} (hd : Ascending d.settings.aliases)

include hd

theorem ascending_addAlias? {form : AliasForm} (h : d.addAlias? form key target = some d') :
    Ascending d'.settings.aliases := by
  obtain ⟨aliases, haliases, hd'⟩ := Option.bind_eq_some_iff.1 h
  cases hd'
  exact hd.insertAlias? haliases

theorem ascending_addText? {form : AliasForm}
    (h : (do let (target, u) ← text? t; pure (← d.addAlias? form key target, u)) = some (d', t')) :
    Ascending d'.settings.aliases := by
  obtain ⟨⟨target, u⟩, -, h⟩ := Option.bind_eq_some_iff.1 h
  obtain ⟨d₁, hd₁, h⟩ := Option.bind_eq_some_iff.1 h
  cases h
  exact ascending_addAlias? hd hd₁

theorem ascending_assign? {keys : List String} (h : d.assign? keys t = some (d', t')) :
    Ascending d'.settings.aliases := by
  unfold Draft.assign? at h
  split at h
  case h_1 | h_5 | h_6 => exact ascending_addText? hd h
  case h_3 =>
    split at h
    · cases h
    · obtain ⟨⟨l, u⟩, -, h⟩ := Option.map_eq_some_iff.1 h
      cases h
      exact hd
  case h_4 =>
    obtain ⟨⟨l, u⟩, hl, h⟩ := Option.map_eq_some_iff.1 h
    cases h
    exact ascending_table? hl
  case h_2 | h_7 => cases h

theorem ascending_enter? (h : d.enter? t = some (d', t')) : Ascending d'.settings.aliases := by
  obtain ⟨⟨keys, u⟩, -, h⟩ := Option.bind_eq_some_iff.1 h
  split at h
  · split at h
    · cases h
      exact hd
    · cases h
  · cases h

theorem ascending_linesFrom? {fuel : Nat} (h : linesFrom? fuel d t = some s) :
    Ascending s.aliases := by
  induction fuel generalizing d t with
  | zero => cases h
  | succ fuel ih =>
    rw [linesFrom?] at h
    split at h
    case h_1 =>
      cases h
      exact hd
    case h_2 =>
      obtain ⟨u, -, h⟩ := Option.bind_eq_some_iff.1 h
      exact ih hd h
    case h_3 =>
      obtain ⟨⟨d₁, u⟩, hd₁, h⟩ := Option.bind_eq_some_iff.1 h
      obtain ⟨v, -, h⟩ := Option.bind_eq_some_iff.1 h
      exact ih (ascending_enter? hd hd₁) h
    case h_4 =>
      obtain ⟨⟨keys, u⟩, -, h⟩ := Option.bind_eq_some_iff.1 h
      obtain ⟨⟨d₁, v⟩, hd₁, h⟩ := Option.bind_eq_some_iff.1 h
      obtain ⟨w, -, h⟩ := Option.bind_eq_some_iff.1 h
      exact ih (ascending_assign? hd hd₁) h

end

/-- The aliases of settings that are read from a text ascend. -/
theorem ascending_ofText {text : String} (h : ofText text = .ok s) : Ascending s.aliases := by
  unfold ofText at h
  split at h
  case h_1 hs =>
    cases h
    exact ascending_linesFrom? (d := {}) List.Pairwise.nil hs
  case h_2 => cases h

end Settings

end SheetTemplate
