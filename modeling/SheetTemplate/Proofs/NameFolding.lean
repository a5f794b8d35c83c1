import Mathlib
import SheetTemplate.Proofs.Resolution
import SheetTemplate.Text.Lowercase

namespace SheetTemplate

namespace Text

def Small (c : Char) : Prop := lowerChar c = [c]

instance : DecidablePred Small := fun c => inferInstanceAs (Decidable (lowerChar c = [c]))

def AsciiCapitals (s : String) : Prop := ∀ c ∈ s.toList, 128 ≤ c.toNat → Small c

namespace CaseRun

def image (r : CaseRun) (n : Nat) : Nat := (n + r.offset).toNat

def avoids (r s : CaseRun) : Bool :=
  Nat.blt (r.image r.last) s.first || (Nat.blt s.last (r.image r.first) ||
    (s.step == 2 && (r.step == 2 || r.first == r.last) && (r.image r.first - s.first) % 2 == 1))

theorem not_covers_image {r s : CaseRun} {n : Nat} (h : r.avoids s) (hn : r.covers n) :
    ¬ s.covers (r.image n) := by
  simp only [avoids, Bool.or_eq_true, Bool.and_eq_true, Nat.blt_eq, beq_iff_eq] at h
  simp only [covers, Bool.and_eq_true, decide_eq_true_eq, beq_iff_eq] at hn ⊢
  obtain ⟨⟨hfirst, hlast⟩, hstep⟩ := hn
  rintro ⟨⟨hfirst', hlast'⟩, hstep'⟩
  have hlower : r.image r.first ≤ r.image n := Int.toNat_le_toNat (by omega)
  have hupper : r.image n ≤ r.image r.last := Int.toNat_le_toNat (by omega)
  rcases h with h | h | ⟨⟨hs, hr⟩, hodd⟩
  · omega
  · omega
  · have heven : (n - r.first) % 2 = 0 := by
      rcases hr with hr | hr
      · rwa [hr] at hstep
      · omega
    rw [hs] at hstep'
    simp only [image] at hodd hstep'
    omega

end CaseRun

def capitals : List CaseRun := ⟨0x130, 0x130, 1, 0⟩ :: lowercaseRuns

theorem avoids_capitals : lowercaseRuns.all fun r => capitals.all r.avoids := by
  decide +kernel

theorem covers_of_isUpper {c : Char} (h : c.isUpper) :
    (⟨0x41, 0x5A, 1, 32⟩ : CaseRun).covers c.toNat := by
  have hbounds : 0x41 ≤ c.toNat ∧ c.toNat ≤ 0x5A := by
    simpa [Char.isUpper, UInt32.le_iff_toNat_le] using h
  simpa [CaseRun.covers, Nat.mod_one] using hbounds

theorem small_of_not_covered {c : Char} (h : ∀ r ∈ capitals, ¬ r.covers c.toNat) : Small c := by
  have hupper : ¬ c.isUpper := fun hc =>
    h _ (List.mem_of_getElem? (i := 3) rfl) (covers_of_isUpper hc)
  have hdotted : c.toNat ≠ 0x130 := fun hc => h _ List.mem_cons_self (by rw [hc]; rfl)
  have hrun : lowercaseRuns.find? (·.covers c.toNat) = none :=
    List.find?_eq_none.2 fun r hr => h r (List.mem_cons_of_mem _ hr)
  unfold Small lowerChar
  rw [Char.toLower_eq_of_not_isUpper hupper, if_neg hdotted, hrun, ite_self]

theorem small_ofNat {m : Nat} (h : ∀ r ∈ capitals, ¬ r.covers m) : Small (Char.ofNat m) := by
  by_cases hm : m.isValidChar
  · refine small_of_not_covered ?_
    rwa [Char.toNat_ofNat, if_pos hm]
  · have hzero : Char.ofNat m = '\x00' := dif_neg hm
    rw [hzero]
    decide

theorem small_image {r : CaseRun} {n : Nat} (hr : r ∈ lowercaseRuns) (hn : r.covers n) :
    Small (Char.ofNat (r.image n)) := by
  refine small_ofNat fun s hs => CaseRun.not_covers_image ?_ hn
  exact List.all_eq_true.1 (List.all_eq_true.1 avoids_capitals r hr) s hs

/-- What a character is lower-cased to is not lower-cased again. -/
theorem small_of_mem_lowerChar {c d : Char} (h : d ∈ lowerChar c) : Small d := by
  unfold lowerChar at h
  split at h
  · rename_i hascii
    obtain rfl := List.mem_singleton.1 h
    by_cases hupper : c.isUpper
    · rw [Char.toLower_eq_of_isUpper hupper]
      exact small_image (List.mem_of_getElem? (i := 2) rfl) (covers_of_isUpper hupper)
    · have hself := Char.toLower_eq_of_not_isUpper hupper
      rw [hself, Small, lowerChar, if_pos hascii, hself]
  · rename_i hascii
    split at h
    · have hdot : Small '\u0307' := by decide
      rcases List.mem_pair.1 h with rfl | rfl
      · decide
      · exact hdot
    · rename_i hdotted
      cases hrun : lowercaseRuns.find? (·.covers c.toNat) with
      | some r =>
        rw [hrun] at h
        obtain rfl := List.mem_singleton.1 h
        exact small_image (List.mem_of_find?_eq_some hrun)
          (List.find?_some (p := fun r : CaseRun => r.covers c.toNat) hrun)
      | none =>
        rw [hrun] at h
        obtain rfl := List.mem_singleton.1 h
        rw [Small, lowerChar, if_neg hascii, if_neg hdotted, hrun]

theorem small_of_mem_lowerFrom {d : Char} (before l : List Char) (h : d ∈ lowerFrom before l) :
    Small d := by
  have hsigmas : Small '\u03C2' ∧ Small '\u03C3' := by decide
  induction l generalizing before with
  | nil => cases h
  | cons c l ih =>
    rcases List.mem_append.1 h with h | h
    · split at h
      · split at h
        · exact List.mem_singleton.1 h ▸ hsigmas.1
        · exact List.mem_singleton.1 h ▸ hsigmas.2
      · exact small_of_mem_lowerChar h
    · exact ih _ h

variable {k s : String} {c : Char}

theorem toLower_eq_self_of_le (h : 128 ≤ c.toNat) : c.toLower = c := by
  refine Char.toLower_eq_of_not_isUpper fun hupper => ?_
  have hletter := covers_of_isUpper hupper
  simp only [CaseRun.covers, Bool.and_eq_true, decide_eq_true_eq] at hletter
  omega

theorem toLower_eq_self_of_small (h : Small c) : c.toLower = c := by
  by_cases hascii : c.toNat < 128
  · rw [Small, lowerChar, if_pos hascii] at h
    exact List.singleton_inj.1 h
  · exact toLower_eq_self_of_le (by omega)

/-- Texts without capitals beyond ASCII are lower-cased character by character, as no sigma in them
is a capital. -/
theorem lowerFrom_eq_map {l : List Char} (h : ∀ c ∈ l, 128 ≤ c.toNat → Small c)
    (before : List Char) : lowerFrom before l = l.map Char.toLower := by
  induction l generalizing before with
  | nil => rfl
  | cons c l ih =>
    have hlower : lowerChar c = [c.toLower] := by
      by_cases hascii : c.toNat < 128
      · rw [lowerChar, if_pos hascii]
      · have hsmall := h c List.mem_cons_self (by omega)
        rw [hsmall, toLower_eq_self_of_small hsmall]
    have hsigma : c.toNat ≠ 0x3A3 := by
      intro hc
      obtain rfl : c = '\u03A3' := Char.toNat_inj.1 hc
      exact absurd (h _ List.mem_cons_self (by decide)) (by decide)
    rw [lowerFrom, if_neg hsigma, hlower, ih (fun d hd => h d (List.mem_cons_of_mem _ hd))]
    rfl

theorem toList_lower_of_asciiCapitals (h : AsciiCapitals s) :
    (lower s).toList = s.toList.map Char.toLower := by
  rw [lower, String.toList_ofList, lowerFrom_eq_map h]

theorem map_toLower_lower (s : String) :
    (lower s).toList.map Char.toLower = (lower s).toList := by
  rw [lower, String.toList_ofList]
  refine (List.map_congr_left fun c hc => ?_).trans (List.map_id _)
  exact toLower_eq_self_of_small (small_of_mem_lowerFrom _ _ hc)

/-- A text is compared with a name in lower case. -/
theorem equalsIgnoringCase_lower_iff :
    equalsIgnoringCase k (lower s) ↔ lower k = lower s ∧ AsciiCapitals k := by
  rw [equalsIgnoringCase, beq_iff_eq, map_toLower_lower]
  constructor
  · intro h
    have hcapitals : AsciiCapitals k := by
      intro c hc hbeyond
      have hmem : c ∈ (lower s).toList := by
        rw [← h, ← toLower_eq_self_of_le hbeyond]
        exact List.mem_map_of_mem hc
      rw [lower, String.toList_ofList] at hmem
      exact small_of_mem_lowerFrom _ _ hmem
    exact ⟨String.toList_inj.1 ((toList_lower_of_asciiCapitals hcapitals).trans h), hcapitals⟩
  · rintro ⟨h, hcapitals⟩
    rw [← h, toList_lower_of_asciiCapitals hcapitals]

end Text

namespace Registry

/-- Any spelling of its name addresses a language that has just been registered. A list keeps the
languages that it spells with ASCII capitals only. -/
theorem retain_spellings {β : Type} [Language β] (r : Registry β) (b : β) (keep : List String) :
    (∀ tag, Text.lower tag = Text.lower (Language.name b) →
        (r.register b).resolve? tag = some (Text.lower (Language.name b))) ∧
      ∀ name c, (r.retain keep).languages[Text.lower name]? = some c ↔
        r.languages[Text.lower name]? = some c ∧
          ∃ k ∈ keep, Text.lower k = Text.lower name ∧ Text.AsciiCapitals k := by
  constructor
  · intro tag htag
    have hlanguage : (r.register b).languages[Text.lower (Language.name b)]? = some b := by
      rw [languages_register, if_pos rfl]
    refine resolve?_eq_some_iff.2 ⟨?_, b, hlanguage⟩
    rw [htag, register, Std.TreeMap.getElem?_insert_self]
  · intro name c
    simp only [languages_retain, Listed, Text.equalsIgnoringCase_lower_iff]

structure Placeholder where
  name : String

instance : Language Placeholder where
  name := Placeholder.name
  bind _ b := (.ok (), b)
  evaluate _ _ _ b := (.error (.evaluation b.name "not implemented"), b)

/-- The tag is a capital letter beyond ASCII, the entry of the list is a small one. -/
theorem retain_spellings_sample :
    (initial.register (Placeholder.mk "é")).resolve? "É" = some "é" ∧
      ((initial.register (Placeholder.mk "é")).retain ["é"]).languages["é"]? = some ⟨"é"⟩ := by
  have hcapital : Text.lower "É" = "é" := by decide
  have hsmall : Text.lower "é" = "é" := by decide
  have hascii : Text.AsciiCapitals "é" := by
    intro c hc _
    have htext : "é".toList = ['é'] := by decide
    rw [htext] at hc
    obtain rfl := List.mem_singleton.1 hc
    decide
  have hlanguage : (initial.register (Placeholder.mk "é")).languages["é"]? = some ⟨"é"⟩ :=
    (languages_register _ _ _).trans (if_pos hsmall)
  have hspellings := retain_spellings initial (Placeholder.mk "é") ["é"]
  have hlisted := retain_spellings (initial.register (Placeholder.mk "é")) ⟨"é"⟩ ["é"]
  constructor
  · rw [← hsmall]
    exact hspellings.1 "É" (hcapital.trans hsmall.symm)
  · have hkept := (hlisted.2 "é" ⟨"é"⟩).2
    rw [hsmall] at hkept
    exact hkept ⟨hlanguage, "é", List.mem_singleton.2 rfl, hsmall, hascii⟩

/-- The list holds the very name that the language is registered under, and leaves it out. -/
theorem not_forall_spelling_kept :
    ¬ ∀ (r : Registry Placeholder) (b : Placeholder) (k : String),
      Text.lower b.name ∈ ((r.register b).retain [k]).languages ↔
        Text.lower k = Text.lower b.name := by
  intro h
  have hname : Text.lower "É" = "é" := by decide
  have hmem := (h initial ⟨"É"⟩ "É").2 rfl
  rw [hname, ← Std.TreeMap.isSome_getElem?_iff_mem, Option.isSome_iff_exists] at hmem
  obtain ⟨b, hb⟩ := hmem
  obtain ⟨k, hk, hequal⟩ := (languages_retain.1 hb).2
  obtain rfl := List.mem_singleton.1 hk
  revert hequal
  decide

end Registry

end SheetTemplate
