import SheetTemplate.Languages
import SheetTemplate.Proofs.Resolution
import SheetTemplate.Proofs.SettingsReading

namespace SheetTemplate

namespace Settings

variable {s : Settings} {tag key target name : String}

/-- The alias with the greatest key among those whose keys are the tag in lower case. -/
structure LastAlias (s : Settings) (tag key target : String) : Prop where
  mem : (key, target) ∈ s.aliases
  lower_key : Text.lower key = tag
  greatest : ∀ a ∈ s.aliases, Text.lower a.1 = tag → a.1 ≤ key

variable {β : Type} [Language β] {languages : List β} {b : β}

def Named (languages : List β) (name : String) : Prop :=
  ∃ b ∈ languages, Text.lower (Language.name b) = name

def LastNamed (languages : List β) (name : String) (b : β) : Prop :=
  Text.lower (Language.name b) = name ∧
    Since (fun c => Text.lower (Language.name c) ≠ name) languages b

theorem exists_lastNamed_iff : (∃ b, LastNamed languages name b) ↔ Named languages name := by
  constructor
  · rintro ⟨b, hname, hsince⟩
    exact ⟨b, hsince.mem, hname⟩
  · rintro ⟨b, hb, hname⟩
    obtain ⟨c, hc, hsince⟩ := exists_since (q := fun c => Text.lower (Language.name c) ≠ name)
      ⟨b, hb, not_not.2 hname⟩
    exact ⟨c, not_not.1 hc, hsince⟩

/-- The settings list the name, if they have a list. -/
def Keeps (s : Settings) (name : String) : Prop :=
  ∀ keep, s.languages = some keep → Registry.Listed keep name

def Kept (s : Settings) (languages : List β) (name : String) : Prop :=
  Named languages name ∧ s.Keeps name

/-- Where the first rule that mentions a tag in lower case leads it. -/
inductive Leads (s : Settings) (languages : List β) (tag : String) : String → Prop
  | alias {key target : String} (h : s.LastAlias tag key target) :
      Leads s languages tag (Text.lower target)
  | own (hs : ∀ a ∈ s.aliases, Text.lower a.1 ≠ tag) (h : Named languages tag) :
      Leads s languages tag tag
  | default {name : String} (hs : ∀ a ∈ s.aliases, Text.lower a.1 ≠ tag)
      (hn : ¬ Named languages tag) (h : (tag, name) ∈ Registry.defaultAliases) :
      Leads s languages tag name

/-- In ascending aliases the last one that mentions a tag has the greatest key. -/
theorem lastAlias_iff_since (hs : Ascending s.aliases) :
    s.LastAlias tag key target ↔
      Text.lower key = tag ∧ Since (fun a => Text.lower a.1 ≠ tag) s.aliases (key, target) := by
  constructor
  · rintro ⟨hmem, hkey, hgreatest⟩
    obtain ⟨before, after, hsplit⟩ := List.append_of_mem hmem
    refine ⟨hkey, before, after, hsplit, fun a ha hlower => ?_⟩
    have hafter := (List.pairwise_append.1 (hsplit ▸ hs)).2.1
    have hlt : key < a.1 := List.rel_of_pairwise_cons hafter ha
    exact absurd hlt (not_lt.2 (hgreatest a (by simp [hsplit, ha]) hlower))
  · rintro ⟨hkey, before, after, hsplit, hafter⟩
    refine ⟨by simp [hsplit], hkey, fun a ha hlower => ?_⟩
    have hbefore := (List.pairwise_append.1 (hsplit ▸ hs)).2.2
    rw [hsplit, List.mem_append, List.mem_cons] at ha
    rcases ha with ha | rfl | ha
    · exact (hbefore a ha (key, target) (by simp)).le
    · exact le_rfl
    · exact absurd hlower (hafter a ha)

def changes (s : Settings) (languages : List β) : List (Registry.Change β) :=
  languages.map .register ++ (s.languages.map .retain).toList ++
    s.aliases.map fun (key, target) => .addAlias key target

theorem registry_eq_replay (s : Settings) (languages : List β) :
    s.registry languages = .replay (s.changes languages) := by
  cases h : s.languages <;>
    simp [registry, addAliases, changes, Registry.replay, Registry.change, h, List.foldl_map]

theorem entries_changes (s : Settings) (languages : List β) :
    Registry.entries (s.changes languages) =
      Registry.defaultAliases ++
        languages.map (fun b => (Language.name b, Text.lower (Language.name b))) ++
        s.aliases.map fun (key, target) => (key, Text.lower target) := by
  cases h : s.languages <;>
    simp [Registry.entries, changes, Registry.Change.entry?, h, List.filterMap_map,
      List.filterMap_cons, Function.comp_def]

theorem exists_since_default_iff :
    (∃ key, Text.lower key = tag ∧
        Since (fun a => Text.lower a.1 ≠ tag) Registry.defaultAliases (key, name)) ↔
      (tag, name) ∈ Registry.defaultAliases := by
  have hlower : ∀ a ∈ Registry.defaultAliases, Text.lower a.1 = a.1 := by decide
  have hdistinct : Registry.defaultAliases.Pairwise fun a a' => Text.lower a'.1 ≠ Text.lower a.1 := by
    decide
  constructor
  · rintro ⟨key, rfl, before, after, hsplit, -⟩
    have hmem : (key, name) ∈ Registry.defaultAliases := by simp [hsplit]
    rwa [hlower _ hmem]
  · intro hmem
    obtain ⟨before, after, hsplit⟩ := List.append_of_mem hmem
    have htag := hlower _ hmem
    rw [hsplit] at hdistinct ⊢
    refine ⟨tag, htag, before, after, rfl, fun a ha => ?_⟩
    have hne := List.rel_of_pairwise_cons (List.pairwise_append.1 hdistinct).2.1 ha
    rwa [htag] at hne

theorem aliases_registry (hs : Ascending s.aliases) :
    (s.registry languages).aliases[tag]? = some name ↔ s.Leads languages tag name := by
  rw [registry_eq_replay, Registry.records_replay, entries_changes]
  simp only [since_append_iff, since_map_iff, List.forall_mem_map]
  constructor
  · rintro ⟨key, hkey, ⟨a, ha, hsince⟩ | ⟨⟨b, hb, hsince⟩ | ⟨hsince, hn⟩, hs'⟩⟩
    · cases ha
      exact .alias ((lastAlias_iff_since hs).2 ⟨hkey, hsince⟩)
    · cases hb
      rw [hkey]
      exact .own hs' ⟨b, hsince.mem, hkey⟩
    · refine .default hs' ?_ (exists_since_default_iff.1 ⟨key, hkey, hsince⟩)
      rintro ⟨b, hb, rfl⟩
      exact hn b hb rfl
  · rintro (hlast | ⟨hs', hn⟩ | ⟨hs', hn, hmem⟩)
    · obtain ⟨hkey, hsince⟩ := (lastAlias_iff_since hs).1 hlast
      exact ⟨_, hkey, .inl ⟨_, rfl, hsince⟩⟩
    · obtain ⟨b, hname, hsince⟩ := exists_lastNamed_iff.2 hn
      exact ⟨_, hname, .inr ⟨.inl ⟨b, by rw [hname], hsince⟩, hs'⟩⟩
    · obtain ⟨key, hkey, hsince⟩ := exists_since_default_iff.2 hmem
      exact ⟨key, hkey, .inr ⟨.inr ⟨hsince, fun b hb heq => hn ⟨b, hb, heq⟩⟩, hs'⟩⟩

omit [Language β] in
theorem languages_addAliases (r : Registry β) (aliases : Pairs) :
    (addAliases r aliases).languages = r.languages := by
  induction aliases generalizing r with
  | nil => rfl
  | cons a aliases ih => exact ih _

theorem Leads.unique {name' : String} (h : s.Leads languages tag name)
    (hs : Ascending s.aliases) (h' : s.Leads languages tag name') : name = name' := by
  rw [← aliases_registry hs] at h h'
  exact Option.some.inj (h.symm.trans h')

theorem languages_registry :
    (s.registry languages).languages[name]? = some b ↔
      LastNamed languages name b ∧ s.Keeps name := by
  have hall : (languages.foldl Registry.register Registry.initial).languages[name]? = some b ↔
      LastNamed languages name b := by
    have hreplay : languages.foldl Registry.register Registry.initial =
        .replay (languages.map .register) := by
      rw [Registry.replay, List.foldl_map]
      rfl
    simp [hreplay, Registry.languages_replay, since_map_iff, LastNamed]
  rw [registry, languages_addAliases]
  cases h : s.languages with
  | none => simp [Keeps, h, hall]
  | some keep => simp [Keeps, h, hall, Registry.languages_retain]

theorem exists_language_registry :
    (∃ b, (s.registry languages).languages[name]? = some b) ↔ s.Kept languages name := by
  simp only [languages_registry, exists_and_right, exists_lastNamed_iff]
  rfl

theorem resolve?_registry (hs : Ascending s.aliases) :
    (s.registry languages).resolve? tag = some name ↔
      s.Leads languages (Text.lower tag) name ∧ s.Kept languages name := by
  rw [Registry.resolve?_eq_some_iff, aliases_registry hs, exists_language_registry]

/-- The languages of the registry that settings make, and where its tags lead. -/
theorem registry_firstRule {β : Type} [Language β] (s : Settings) (languages : List β)
    (hs : Ascending s.aliases) :
    (∀ name b, (s.registry languages).languages[name]? = some b ↔
        LastNamed languages name b ∧ s.Keeps name) ∧
      ∀ tag,
        (∀ name, s.Leads languages (Text.lower tag) name →
          (s.Kept languages name → (s.registry languages).resolve? tag = some name) ∧
            (¬ s.Kept languages name → (s.registry languages).resolve? tag = none)) ∧
          ((∀ name, ¬ s.Leads languages (Text.lower tag) name) →
            (s.registry languages).resolve? tag = none) := by
  refine ⟨fun name b => languages_registry, fun tag => ⟨fun name hleads => ⟨?_, ?_⟩, ?_⟩⟩
  · exact fun hkept => (resolve?_registry hs).2 ⟨hleads, hkept⟩
  · intro hkept
    rw [Option.eq_none_iff_forall_ne_some]
    intro name' hresolve
    obtain ⟨hleads', hkept'⟩ := (resolve?_registry hs).1 hresolve
    exact hkept (hleads.unique hs hleads' ▸ hkept')
  · intro hnone
    rw [Option.eq_none_iff_forall_ne_some]
    exact fun name hresolve => hnone name ((resolve?_registry hs).1 hresolve).1

def crossed : Settings :=
  { aliases := [("ES", "js"), ("Es", "RHAI"), ("JS", "es")], languages := some ["Rhai", "lua"] }

theorem named_all (withCel : Bool) :
    Named (AnyLanguage.all withCel) name ↔
      name = "rhai" ∨ name = "js" ∨ withCel = true ∧ name = "cel" := by
  have hrhai : Text.lower (Language.name (AnyLanguage.rhai {})) = "rhai" := by decide
  have hscript : Text.lower (Language.name (AnyLanguage.script .initial)) = "js" := by decide
  have hcel : Text.lower (Language.name (AnyLanguage.cel {})) = "cel" := by decide
  cases withCel <;> simp [Named, AnyLanguage.all, hrhai, hscript, hcel, eq_comm]

theorem registry_firstRule_crossed :
    (Ascending crossed.aliases ∧ crossed.LastAlias "es" "Es" "RHAI" ∧
        crossed.LastAlias "js" "JS" "es") ∧
      (crossed.registry (AnyLanguage.all false)).resolve? "eS" = some "rhai" ∧
        (crossed.registry (AnyLanguage.all false)).resolve? "js" = none ∧
          (crossed.registry (AnyLanguage.all false)).resolve? "JavaScript" = none := by
  have hs : Ascending crossed.aliases := by unfold Ascending; decide
  have hes : crossed.LastAlias "es" "Es" "RHAI" := ⟨by decide, by decide, by decide⟩
  have hjs : crossed.LastAlias "js" "JS" "es" := ⟨by decide, by decide, by decide⟩
  have hrules := (registry_firstRule crossed (AnyLanguage.all false) hs).2
  have hkeeps {name : String} : crossed.Keeps name ↔ Registry.Listed ["Rhai", "lua"] name := by
    simp [Keeps, crossed]
  have hrhai : crossed.Kept (AnyLanguage.all false) "rhai" :=
    ⟨(named_all false).2 (by decide), hkeeps.2 ⟨"Rhai", by decide, by decide⟩⟩
  have hunnamed : ¬ crossed.Kept (AnyLanguage.all false) "es" :=
    fun h => absurd ((named_all false).1 h.1) (by decide)
  have hunlisted : ¬ crossed.Kept (AnyLanguage.all false) "js" := by
    rintro ⟨-, hkeeps'⟩
    obtain ⟨k, hk, hequal⟩ := hkeeps.1 hkeeps'
    revert k
    decide
  have hdefault : crossed.Leads (AnyLanguage.all false) "javascript" "js" :=
    .default (by decide) (fun h => absurd ((named_all false).1 h) (by decide)) (by decide)
  exact ⟨⟨hs, hes, hjs⟩, ((hrules "eS").1 "rhai" (.alias hes)).1 hrhai,
    ((hrules "js").1 "es" (.alias hjs)).2 hunnamed,
    ((hrules "JavaScript").1 "js" hdefault).2 hunlisted⟩

end Settings

end SheetTemplate
