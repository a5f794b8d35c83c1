import SheetTemplate.Formula.Spec

namespace SheetTemplate.FormatSpec

open Number

variable {s digits before : List Char} {letter : Char} {kind : FormatKind} {n : Int}
  {f : FormatSpec}

inductive Precise : List Char → Int → Prop
  | left_open : Precise [] (-1)
  | number {digits : List Char} (ne_nil : digits ≠ []) (isDigit : ∀ c ∈ digits, c.isDigit)
      (le : digitsValue digits ≤ maxPrecision) : Precise digits (digitsValue digits)

inductive Spells : List Char → FormatSpec → Prop
  | string : Spells ['s'] plain
  | int {digits : List Char} {n : Int} (precise : Precise digits n) :
      Spells (digits ++ ['d']) ⟨.int, n⟩
  | real {letter : Char} {kind : FormatKind} (real : realKind? letter = some kind) :
      Spells [letter] ⟨kind, -1⟩
  | places {letter : Char} {kind : FormatKind} {digits : List Char} {n : Int}
      (real : realKind? letter = some kind) (ne_nil : digits ≠ []) (precise : Precise digits n) :
      Spells ('.' :: digits ++ [letter]) ⟨kind, n⟩

theorem precisionOf?_eq_some_iff : precisionOf? digits = some n ↔ Precise digits n := by
  constructor
  · intro h
    by_cases hnil : digits = []
    · subst hnil
      cases h
      exact .left_open
    · by_cases hall : digits.all Char.isDigit
      · by_cases hle : digitsValue digits ≤ maxPrecision
        · have hn : (digitsValue digits : Int) = n := by
            simpa [precisionOf?, readNat?, hnil, hall, hle] using h
          exact hn ▸ .number hnil (List.all_eq_true.1 hall) hle
        · simp [precisionOf?, readNat?, hnil, hall, hle] at h
      · simp [precisionOf?, readNat?, hnil, hall] at h
  · rintro (_ | ⟨hne, hall, hle⟩)
    · rfl
    · have hall := List.all_eq_true.2 hall
      simp [precisionOf?, readNat?, hne, hall, hle]

theorem ne_of_realKind? (h : realKind? letter = some kind) : letter ≠ 's' ∧ letter ≠ 'd' := by
  constructor <;> rintro rfl <;> cases h

theorem ofChars?_string : ofChars? (before ++ ['s']) = some f ↔ before = [] ∧ plain = f := by
  by_cases h : before = []
  · simp [ofChars?, h]
  · simp [ofChars?, h, realKind?]

theorem ofChars?_int :
    ofChars? (before ++ ['d']) = some f ↔ ∃ n, Precise before n ∧ ⟨.int, n⟩ = f := by
  simp [ofChars?, precisionOf?_eq_some_iff]

theorem ofChars?_other (hs : letter ≠ 's') (hd : letter ≠ 'd') :
    ofChars? (before ++ [letter]) = some f ↔
      ∃ kind, realKind? letter = some kind ∧
        (before = [] ∧ ⟨kind, -1⟩ = f ∨
          ∃ digits n, before = '.' :: digits ∧ digits ≠ [] ∧ Precise digits n ∧ ⟨kind, n⟩ = f) := by
  cases hkind : realKind? letter with
  | none => simp [ofChars?, hs, hkind]
  | some kind =>
    rcases before with _ | ⟨c, digits⟩
    · simp [ofChars?, hs, hkind]
    · by_cases hc : c = '.'
      · by_cases hnil : digits = []
        · simp [ofChars?, hkind, hc, hnil]
        · simp [ofChars?, hkind, hc, hnil, precisionOf?_eq_some_iff]
      · simp [ofChars?, hs, hkind, hc]

theorem ofChars?_eq_some_iff : ofChars? s = some f ↔ Spells s f := by
  constructor
  · intro h
    rcases List.eq_nil_or_concat s with rfl | ⟨before, letter, rfl⟩
    · cases h
    · rw [List.concat_eq_append] at h ⊢
      by_cases hs : letter = 's'
      · subst hs
        obtain ⟨rfl, rfl⟩ := ofChars?_string.1 h
        exact .string
      · by_cases hd : letter = 'd'
        · subst hd
          obtain ⟨n, hn, rfl⟩ := ofChars?_int.1 h
          exact .int hn
        · obtain ⟨kind, hkind, ⟨rfl, rfl⟩ | ⟨digits, n, rfl, hne, hn, rfl⟩⟩ :=
            (ofChars?_other hs hd).1 h
          · exact .real hkind
          · exact .places hkind hne hn
  · intro h
    cases h with
    | string => rfl
    | int precise => exact ofChars?_int.2 ⟨_, precise, rfl⟩
    | real real =>
      obtain ⟨hs, hd⟩ := ne_of_realKind? real
      exact (ofChars?_other hs hd).2 ⟨_, real, .inl ⟨rfl, rfl⟩⟩
    | places real ne_nil precise =>
      obtain ⟨hs, hd⟩ := ne_of_realKind? real
      exact (ofChars?_other hs hd).2 ⟨_, real, .inr ⟨_, _, rfl, ne_nil, precise, rfl⟩⟩

theorem ofText_eq_ok_iff {text : String} : ofText text = .ok f ↔ Spells text.toList f := by
  rw [← ofChars?_eq_some_iff, ofText]
  cases ofChars? text.toList <;> simp

theorem Spells.paren_not_mem (h : Spells s f) : ')' ∉ s := by
  have hdigits {digits : List Char} {n : Int} (hn : Precise digits n) : ')' ∉ digits := by
    intro hmem
    cases hn with
    | left_open => cases hmem
    | number _ isDigit => exact absurd (isDigit _ hmem) (by decide)
  cases h with
  | string => decide
  | int precise => simp [hdigits precise]
  | real real =>
    simp only [List.mem_singleton]
    rintro rfl
    cases real
  | places real _ precise =>
    simp only [List.cons_append, List.mem_cons, List.mem_append, hdigits precise]
    rintro (h | h | rfl | h)
    · cases h
    · exact h
    · cases real
    · cases h

end SheetTemplate.FormatSpec
