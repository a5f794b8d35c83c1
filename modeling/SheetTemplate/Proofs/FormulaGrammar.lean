import SheetTemplate.Formula.Basic
import SheetTemplate.Proofs.SpecGrammar
import SheetTemplate.Proofs.Spelling

namespace SheetTemplate

def Direction.letter : Direction → Char
  | cell => 'C'
  | horizontal => 'H'
  | vertical => 'V'
  | table => 'T'

theorem Direction.ofLetter?_eq_some_iff {c : Char} {d : Direction} :
    ofLetter? c = some d ↔ c = d.letter := by
  constructor
  · intro h
    unfold ofLetter? at h
    split at h <;> cases h <;> rfl
  · rintro rfl
    cases d <;> rfl

namespace Formula

variable {body code code' spec rest : List Char} {d : Direction} {h h' : Head} {f : Formula}

def Head.toChars (h : Head) : List Char :=
  match h.spec with
  | none => [h.direction.letter, '|']
  | some spec => h.direction.letter :: '(' :: spec ++ [')', '|']

structure Headed (body : List Char) (h : Head) (code : List Char) : Prop where
  text : body = h.toChars ++ code
  code_ne_nil : code ≠ []
  closed : ∀ spec, h.spec = some spec → ')' ∉ spec

/-- The formula that a body spells. -/
inductive Spells (body : List Char) : Formula → Prop
  | formatted {d : Direction} {spec code : List Char} {format : FormatSpec}
      (headed : Headed body ⟨d, some spec⟩ code) (spelled : FormatSpec.Spells spec format) :
      Spells body ⟨d, format, String.ofList code⟩
  | directed {d : Direction} {code : List Char} (headed : Headed body ⟨d, none⟩ code) :
      Spells body ⟨d, .plain, String.ofList code⟩
  | bare (headless : ∀ h code, ¬ Headed body h code) :
      Spells body ⟨.cell, .plain, String.ofList body⟩

theorem splitHead?_toChars (hcode : code ≠ []) (hclosed : ∀ spec, h.spec = some spec → ')' ∉ spec) :
    splitHead? (h.toChars ++ code) = some (h, code) := by
  obtain ⟨d, spec⟩ := h
  have hd := Direction.ofLetter?_eq_some_iff.2 (Eq.refl d.letter)
  cases spec with
  | none => simp [Head.toChars, splitHead?, hd, hcode]
  | some spec =>
    have hspec : ∀ c ∈ spec, c != ')' := by
      intro c hc
      have hne : c ≠ ')' := fun he => hclosed spec rfl (he ▸ hc)
      simpa using hne
    have hstop : ¬ (')' :: '|' :: code).head?.any (· != ')') := by simp
    simp [Head.toChars, splitHead?, hd, takeWhile_append_stop hspec hstop,
      dropWhile_append_stop hspec hstop, hcode]

theorem headed_of_bar (hread : splitHead? (d.letter :: '|' :: rest) = some (h, code)) :
    Headed (d.letter :: '|' :: rest) h code := by
  have hd := Direction.ofLetter?_eq_some_iff.2 (Eq.refl d.letter)
  have ⟨hne, hhead, hcode⟩ : rest ≠ [] ∧ ⟨d, none⟩ = h ∧ rest = code := by
    simpa [splitHead?, hd] using hread
  subst hhead hcode
  exact ⟨rfl, hne, by simp⟩

theorem headed_of_paren (hread : splitHead? (d.letter :: '(' :: rest) = some (h, code)) :
    Headed (d.letter :: '(' :: rest) h code := by
  have hd := Direction.ofLetter?_eq_some_iff.2 (Eq.refl d.letter)
  simp only [splitHead?, hd] at hread
  split at hread
  · rename_i code' hrest
    have ⟨hne, hhead, hcode⟩ : code' ≠ [] ∧
        ⟨d, some (rest.takeWhile (· != ')'))⟩ = h ∧ code' = code := by
      simpa using hread
    have hsplit := List.takeWhile_append_dropWhile (p := (· != ')')) (l := rest)
    rw [hrest] at hsplit
    subst hhead hcode
    refine ⟨?_, hne, ?_⟩
    · simp [Head.toChars, hsplit]
    · rintro spec ⟨⟩ hmem
      simpa using List.mem_takeWhile_imp hmem
  · cases hread

theorem splitHead?_eq_some_iff : splitHead? body = some (h, code) ↔ Headed body h code := by
  constructor
  · intro hread
    rcases body with _ | ⟨letter, _ | ⟨c, rest⟩⟩
    · cases hread
    · simp [splitHead?] at hread
    · cases hd : Direction.ofLetter? letter with
      | none => simp [splitHead?, hd] at hread
      | some d =>
        obtain rfl := Direction.ofLetter?_eq_some_iff.1 hd
        by_cases hbar : c = '|'
        · exact hbar ▸ headed_of_bar (hbar ▸ hread)
        · by_cases hparen : c = '('
          · exact hparen ▸ headed_of_paren (hparen ▸ hread)
          · simp [splitHead?, hd, hbar, hparen] at hread
  · rintro ⟨rfl, hne, hclosed⟩
    exact splitHead?_toChars hne hclosed

theorem Headed.unique (hh : Headed body h code) (hh' : Headed body h' code') :
    h = h' ∧ code = code' := by
  have hread := splitHead?_eq_some_iff.2 hh
  rw [splitHead?_eq_some_iff.2 hh'] at hread
  cases hread
  exact ⟨rfl, rfl⟩

def braced (body : List Char) : List Char :=
  '\x7b' :: '\x7b' :: (body ++ ['\x7d', '\x7d'])

theorem body?_eq_some_iff {s : List Char} : body? s = some body ↔ s = braced body ∧ body ≠ [] := by
  constructor
  · intro hread
    unfold body? at hread
    split at hread
    · rename_i rest
      split at hread
      · rename_i c inner hrest
        cases hread
        have hrest := congrArg List.reverse hrest
        rw [List.reverse_reverse] at hrest
        simp [braced, hrest]
      · cases hread
    · cases hread
  · rintro ⟨rfl, hne⟩
    obtain ⟨c, inner, hbody⟩ := List.exists_cons_of_ne_nil (List.reverse_ne_nil_iff.2 hne)
    have hbody := congrArg List.reverse hbody
    rw [List.reverse_reverse] at hbody
    simp [body?, braced, hbody]

theorem Headed.spells_formatted_iff (hh : Headed body ⟨d, some spec⟩ code) :
    Spells body f ↔
      ∃ format, FormatSpec.Spells spec format ∧ ⟨d, format, String.ofList code⟩ = f := by
  constructor
  · rintro (⟨hh', hspec⟩ | hh' | headless)
    · obtain ⟨⟨⟩, rfl⟩ := hh.unique hh'
      exact ⟨_, hspec, rfl⟩
    · cases (hh.unique hh').1
    · exact absurd hh (headless _ _)
  · rintro ⟨format, hspec, rfl⟩
    exact .formatted hh hspec

theorem Headed.spells_directed_iff (hh : Headed body ⟨d, none⟩ code) :
    Spells body f ↔ ⟨d, .plain, String.ofList code⟩ = f := by
  constructor
  · rintro (⟨hh', -⟩ | hh' | headless)
    · cases (hh.unique hh').1
    · obtain ⟨⟨⟩, rfl⟩ := hh.unique hh'
      rfl
    · exact absurd hh (headless _ _)
  · rintro rfl
    exact .directed hh

theorem spells_bare_iff (headless : ∀ h code, ¬ Headed body h code) :
    Spells body f ↔ ⟨.cell, .plain, String.ofList body⟩ = f := by
  constructor
  · rintro (⟨hh, -⟩ | hh | -)
    · exact absurd hh (headless _ _)
    · exact absurd hh (headless _ _)
    · rfl
  · rintro rfl
    exact .bare headless

theorem readBody_eq_formula_iff : readBody body = .formula f ↔ Spells body f := by
  cases hsplit : splitHead? body with
  | none =>
    have headless : ∀ h code, ¬ Headed body h code := by
      intro h code hh
      rw [splitHead?_eq_some_iff.2 hh] at hsplit
      cases hsplit
    simp [spells_bare_iff headless, readBody, hsplit]
  | some parts =>
    obtain ⟨⟨d, spec⟩, code⟩ := parts
    have hh := splitHead?_eq_some_iff.1 hsplit
    cases spec with
    | none => simp [hh.spells_directed_iff, readBody, hsplit]
    | some spec =>
      have hspells {format : FormatSpec} :
          FormatSpec.Spells spec format ↔ FormatSpec.ofText (String.ofList spec) = .ok format := by
        rw [FormatSpec.ofText_eq_ok_iff, String.toList_ofList]
      simp only [hh.spells_formatted_iff, hspells, readBody, hsplit]
      cases FormatSpec.ofText (String.ofList spec) <;> simp

theorem ofText?_eq_some_iff {text : String} :
    ofText? text = some f ↔ ∃ body, text.toList = braced body ∧ body ≠ [] ∧ Spells body f := by
  have hread : ofText? text = some f ↔ ∃ body, body? text.toList = some body ∧
      readBody body = .formula f := by
    unfold ofText? read
    cases body? text.toList with
    | none => simp
    | some body => cases h : readBody body <;> simp [h]
  simp only [hread, body?_eq_some_iff, readBody_eq_formula_iff, and_assoc]

theorem braced_inj {body body' : List Char} (h : braced body = braced body') : body = body' := by
  simpa [braced] using h

def formatOf : Option String → Except FormatSpec.ParseError FormatSpec
  | none => .ok .plain
  | some spec => FormatSpec.ofText spec

def written (d : Direction) (spec : Option String) (code : String) : String :=
  "\x7b\x7b" ++ String.singleton d.letter ++ spec.elim "" (fun s => "(" ++ s ++ ")") ++ "|" ++ code ++
    "\x7d\x7d"

theorem ofText?_written {spec : Option String} {format : FormatSpec} {code : String}
    (hformat : formatOf spec = .ok format) (hcode : code ≠ "") :
    ofText? (written d spec code) = some ⟨d, format, code⟩ := by
  have hne : code.toList ≠ [] := by simpa using hcode
  have hspells : Spells (Head.toChars ⟨d, spec.map String.toList⟩ ++ code.toList)
      ⟨d, format, String.ofList code.toList⟩ := by
    cases spec with
    | none =>
      cases hformat
      exact .directed ⟨rfl, hne, by simp⟩
    | some spec =>
      have hspec := FormatSpec.ofText_eq_ok_iff.1 hformat
      have hclosed := hspec.paren_not_mem
      exact .formatted ⟨rfl, hne, by simpa using hclosed⟩ hspec
  rw [String.ofList_toList] at hspells
  refine ofText?_eq_some_iff.2 ⟨_, ?_, by simp [hne], hspells⟩
  cases spec <;> simp [written, braced, Head.toChars]

/-- Which texts are formulas, and which formulas they are. -/
theorem ofText?_grammar (text : String) :
    (∀ f, ofText? text = some f ↔
        ∃ body, text.toList = braced body ∧ body ≠ [] ∧ Spells body f) ∧
      (∀ body d spec code, text.toList = braced body → Headed body ⟨d, some spec⟩ code →
        (∀ format, ¬ FormatSpec.Spells spec format) → ofText? text = none) ∧
      ∀ body h h' code code', Headed body h code → Headed body h' code' → h = h' ∧ code = code' := by
  refine ⟨fun f => ofText?_eq_some_iff, ?_, fun _ _ _ _ _ => Headed.unique⟩
  intro body d spec code htext hh hspec
  rw [Option.eq_none_iff_forall_ne_some]
  intro f hf
  obtain ⟨body', htext', -, hspells⟩ := ofText?_eq_some_iff.1 hf
  rw [htext] at htext'
  obtain rfl := braced_inj htext'
  obtain ⟨format, hformat, -⟩ := hh.spells_formatted_iff.1 hspells
  exact hspec format hformat

theorem ofText?_grammar_sample :
    ofText? "\x7b\x7bT(.2f)|[cel]a\x7d\x7d" = some ⟨.table, ⟨.float, 2⟩, "[cel]a"⟩ ∧
      ofText? "\x7b\x7bH(x)|[js]1\x7d\x7d" = none := by
  constructor
  · refine ((ofText?_grammar _).1 _).2 ⟨"T(.2f)|[cel]a".toList, by rfl, by decide, ?_⟩
    have hheaded : Headed "T(.2f)|[cel]a".toList ⟨.table, some ['.', '2', 'f']⟩ "[cel]a".toList :=
      ⟨rfl, by decide, by simp⟩
    have hspec : FormatSpec.Spells ['.', '2', 'f'] ⟨.float, 2⟩ :=
      FormatSpec.ofChars?_eq_some_iff.1 (by decide)
    exact .formatted hheaded hspec
  · refine (ofText?_grammar _).2.1 "H(x)|[js]1".toList .horizontal ['x'] "[js]1".toList (by rfl)
      ⟨rfl, by decide, by simp⟩ ?_
    intro format hspec
    cases FormatSpec.ofChars?_eq_some_iff.2 hspec

end Formula

end SheetTemplate
