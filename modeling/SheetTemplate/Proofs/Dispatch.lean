import SheetTemplate.Proofs.FormulaGrammar
import SheetTemplate.Registry
import SheetTemplate.Script.Language

namespace SheetTemplate

structure Tagged (code tag body : String) : Prop where
  text : code = "[" ++ tag ++ "]" ++ body
  ne_empty : tag ≠ ""
  word : ∀ c ∈ tag.toList, Text.isWord c

namespace TaggedCode

variable {code tag body : String}

theorem split?_eq_some_iff {s name rest : List Char} :
    split? s = some (name, rest) ↔
      s = '[' :: (name ++ ']' :: rest) ∧ name ≠ [] ∧ ∀ c ∈ name, Text.isWord c := by
  constructor
  · intro h
    unfold split? at h
    split at h
    · rename_i s
      split at h
      · rename_i rest' hrest
        have ⟨hne, hname, hbody⟩ : s.takeWhile Text.isWord ≠ [] ∧
            s.takeWhile Text.isWord = name ∧ rest' = rest := by
          simpa using h
        have hsplit := List.takeWhile_append_dropWhile (p := Text.isWord) (l := s)
        rw [hrest] at hsplit
        subst hname hbody
        exact ⟨by rw [hsplit], hne, fun _ => List.mem_takeWhile_imp⟩
      · cases h
    · cases h
  · rintro ⟨rfl, hne, hword⟩
    have hstop : ¬ (']' :: rest).head?.any Text.isWord :=
      show ¬ Text.isWord ']' from by decide
    simp [split?, takeWhile_append_stop hword hstop, dropWhile_append_stop hword hstop, hne]

theorem tagged_iff_split? :
    Tagged code tag body ↔ split? code.toList = some (tag.toList, body.toList) := by
  rw [split?_eq_some_iff]
  constructor
  · rintro ⟨rfl, hne, hword⟩
    exact ⟨by simp, by simpa using hne, hword⟩
  · rintro ⟨htext, hne, hword⟩
    exact ⟨String.toList_inj.1 (by simp [htext]), by simpa using hne, hword⟩

theorem ofText_of_tagged (h : Tagged code tag body) : ofText code = .ok ⟨Text.lower tag, body⟩ := by
  simp [ofText, tagged_iff_split?.1 h]

theorem ofText_of_untagged (h : ∀ tag body, ¬ Tagged code tag body) :
    ofText code = .error .wrongCodeFormat := by
  unfold ofText
  split
  · rename_i name rest hsplit
    exact absurd (tagged_iff_split?.2 (by simpa using hsplit))
      (h (String.ofList name) (String.ofList rest))
  · rfl

end TaggedCode

namespace Registry

variable {β : Type} {r : Registry β} {f : Formula} {tag body name : String} {b : β}

theorem resolve?_eq_some_iff :
    r.resolve? tag = some name ↔
      r.aliases[Text.lower tag]? = some name ∧ ∃ b, r.languages[name]? = some b := by
  have hmem : name ∈ r.languages ↔ ∃ b, r.languages[name]? = some b := by
    rw [← Option.isSome_iff_exists, Std.TreeMap.isSome_getElem?_iff_mem]
  rw [← hmem]
  constructor
  · intro h
    unfold resolve? at h
    obtain ⟨name', halias, hname'⟩ := Option.bind_eq_some_iff.1 h
    split at hname'
    · cases hname'
      exact ⟨halias, by assumption⟩
    · cases hname'
  · rintro ⟨halias, hname⟩
    simp [resolve?, halias, hname]

structure Call where
  code : String
  direction : Direction
  format : FormatSpec

structure Watched (β : Type) where
  language : β
  calls : List Call

def watch (r : Registry β) : Registry (Watched β) :=
  { languages := r.languages.map fun _ b => ⟨b, []⟩, aliases := r.aliases }

theorem languages_watch : r.watch.languages[name]? = (r.languages[name]?).map (⟨·, []⟩) :=
  Std.TreeMap.getElem?_map

theorem resolve?_watch (r : Registry β) (tag : String) : r.watch.resolve? tag = r.resolve? tag := by
  apply Option.ext
  intro name
  have halias : r.watch.aliases = r.aliases := rfl
  simp only [resolve?_eq_some_iff, languages_watch, halias]
  cases r.languages[name]? <;> simp

def callsOf (r : Registry (Watched β)) (name : String) : List Call :=
  (r.languages[name]?).elim [] (·.calls)

theorem callsOf_watch (r : Registry β) (name : String) : r.watch.callsOf name = [] := by
  rw [callsOf, languages_watch]
  cases r.languages[name]? <;> rfl

variable [Language β]

def Call.run (c : Call) (b : β) : Except EngineError Grid × β :=
  Language.evaluate c.code c.direction c.format b

instance : Language (Watched β) where
  name w := Language.name w.language
  bind data w := (Language.bind data w.language).map id (⟨·, w.calls⟩)
  evaluate code direction format w :=
    (Language.evaluate code direction format w.language).map id
      (⟨·, w.calls ++ [⟨code, direction, format⟩]⟩)

/-- The calls that evaluating the formula takes, by the names of the languages. -/
def callsFor (r : Registry β) (f : Formula) (name : String) : List Call :=
  (r.watch.evaluate f).2.callsOf name

structure Refuses (r : Registry β) (f : Formula) (e : EngineError) : Prop where
  evaluate : r.evaluate f = (.error e, r)
  calls : ∀ name, r.callsFor f name = []

/-- The language under the name runs the code once, its answer is the answer, and no other runs. -/
structure Delegates (r : Registry β) (f : Formula) (name : String) (b : β) (call : Call) : Prop where
  language : r.languages[name]? = some b
  evaluate : r.evaluate f =
    ((call.run b).1, { r with languages := r.languages.insert name (call.run b).2 })
  watched : (r.watch.evaluate f).1 = (r.evaluate f).1
  calls : ∀ other, r.callsFor f other = if other = name then [call] else []

theorem evaluate_untagged (h : ∀ tag body, ¬ Tagged f.code tag body) :
    r.evaluate f = (.error .wrongCodeFormat, r) := by
  simp [evaluate, TaggedCode.ofText_of_untagged h]

theorem evaluate_unresolved (h : Tagged f.code tag body) (hr : r.resolve? tag = none) :
    r.evaluate f = (.error (.unknownLanguage (Text.lower tag)), r) := by
  simp only [evaluate, TaggedCode.ofText_of_tagged h]
  cases halias : r.aliases[Text.lower tag]? with
  | none => rfl
  | some name =>
    cases hb : r.languages[name]? with
    | none => simp [hb]
    | some b =>
      rw [resolve?_eq_some_iff.2 ⟨halias, b, hb⟩] at hr
      cases hr

theorem evaluate_resolved (h : Tagged f.code tag body) (hr : r.resolve? tag = some name)
    (hb : r.languages[name]? = some b) :
    r.evaluate f =
      (((⟨body, f.direction, f.format⟩ : Call).run b).1,
        { r with languages :=
          r.languages.insert name ((⟨body, f.direction, f.format⟩ : Call).run b).2 }) := by
  simp only [evaluate, TaggedCode.ofText_of_tagged h, (resolve?_eq_some_iff.1 hr).1, hb]
  rfl

theorem refuses_untagged (h : ∀ tag body, ¬ Tagged f.code tag body) :
    r.Refuses f .wrongCodeFormat := by
  refine ⟨evaluate_untagged h, fun name => ?_⟩
  rw [callsFor, evaluate_untagged h]
  exact callsOf_watch r name

theorem refuses_unresolved (h : Tagged f.code tag body) (hr : r.resolve? tag = none) :
    r.Refuses f (.unknownLanguage (Text.lower tag)) := by
  refine ⟨evaluate_unresolved h hr, fun name => ?_⟩
  rw [callsFor, evaluate_unresolved h (resolve?_watch r tag ▸ hr)]
  exact callsOf_watch r name

theorem delegates_resolved (h : Tagged f.code tag body) (hr : r.resolve? tag = some name)
    (hb : r.languages[name]? = some b) :
    r.Delegates f name b ⟨body, f.direction, f.format⟩ := by
  have hwatched : r.watch.languages[name]? = some ⟨b, []⟩ := by
    rw [languages_watch, hb]
    rfl
  have heval := evaluate_resolved h hr hb
  have heval' := evaluate_resolved h (resolve?_watch r tag ▸ hr) hwatched
  refine ⟨hb, heval, ?_, fun other => ?_⟩
  · rw [heval, heval']
    rfl
  · rw [callsFor, heval', callsOf, Std.TreeMap.getElem?_insert]
    by_cases hother : other = name
    · subst hother
      simp [Call.run, Language.evaluate]
    · have hne : compare name other ≠ .eq := by
        rw [Ne, Std.LawfulEqCmp.compare_eq_iff_eq]
        exact Ne.symm hother
      rw [if_neg hne, if_neg hother]
      exact callsOf_watch r other

/-- Formula code reaches the language that its tag leads to as it was written. -/
theorem evaluate_written {β : Type} [Language β] (r : Registry β) (d : Direction)
    {spec : Option String} {format : FormatSpec} {tag name : String} (body : String)
    (hformat : Formula.formatOf spec = .ok format) (hne : tag ≠ "")
    (hword : ∀ c ∈ tag.toList, Text.isWord c) (hresolve : r.resolve? tag = some name) :
    ∃ f b, Formula.ofText? (Formula.written d spec ("[" ++ tag ++ "]" ++ body)) = some f ∧
      r.Delegates f name b ⟨body, d, format⟩ := by
  have htagged : Tagged ("[" ++ tag ++ "]" ++ body) tag body := ⟨rfl, hne, hword⟩
  have hcode : "[" ++ tag ++ "]" ++ body ≠ "" := by
    simp [← String.toList_inj]
  obtain ⟨-, b, hb⟩ := resolve?_eq_some_iff.1 hresolve
  exact ⟨⟨d, format, _⟩, b, Formula.ofText?_written hformat hcode,
    delegates_resolved (f := ⟨d, format, _⟩) htagged hresolve hb⟩

def scriptOnly : Registry Script.Realm := initial.register .initial

theorem evaluate_written_sample :
    (Formula.formatOf (some ".2f") = .ok ⟨.float, 2⟩ ∧ "ES" ≠ "" ∧
        (∀ c ∈ "ES".toList, Text.isWord c) ∧ scriptOnly.resolve? "ES" = some "js") ∧
      ∃ f b,
        Formula.ofText?
            (Formula.written .table (some ".2f") ("[" ++ "ES" ++ "]" ++ "\x7d\x7d|[)(\n")) = some f ∧
          scriptOnly.Delegates f "js" b ⟨"\x7d\x7d|[)(\n", .table, ⟨.float, 2⟩⟩ := by
  have hformat : Formula.formatOf (some ".2f") = .ok ⟨.float, 2⟩ := by rfl
  have htagged : Tagged "[ES]" "ES" "" := TaggedCode.tagged_iff_split?.2 (by rfl)
  have hresolve : scriptOnly.resolve? "ES" = some "js" := by rfl
  exact ⟨⟨hformat, htagged.ne_empty, htagged.word, hresolve⟩,
    evaluate_written scriptOnly .table "\x7d\x7d|[)(\n" hformat htagged.ne_empty htagged.word
      hresolve⟩

end Registry

end SheetTemplate
