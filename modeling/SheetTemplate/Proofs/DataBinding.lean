import Mathlib.Data.String.Basic
import SheetTemplate.Languages
import SheetTemplate.Proofs.Resolution

namespace SheetTemplate

namespace Registry

variable {β : Type} [Language β] {data : DataMap} {l : List (String × β)} {name : String} {b : β}
  {e : EngineError}

def Binds (data : DataMap) (b : β) : Prop := (Language.bind data b).1 = .ok ()

def told (data : DataMap) (b : β) : β := (Language.bind data b).2

def BindBefore (data : DataMap) (l : List (String × β)) (name : String) : Prop :=
  ∀ p ∈ l, p.1 < name → Binds data p.2

theorem not_binds_iff : ¬ Binds data b ↔ ∃ e, (Language.bind data b).1 = .error e := by
  unfold Binds
  cases (Language.bind data b).1 <;> simp

/-- The first language accepts the data and the others are told, or it fails and no other is. -/
theorem bindEach_cons_cases (data : DataMap) (name : String) (b : β) (l : List (String × β)) :
    (Binds data b ∧
        bindEach data ((name, b) :: l) =
          ((bindEach data l).1, (name, told data b) :: (bindEach data l).2) ∧
        boundNames data ((name, b) :: l) = name :: boundNames data l) ∨
      ∃ e, (Language.bind data b).1 = .error e ∧
        bindEach data ((name, b) :: l) = (.error e, (name, told data b) :: l) ∧
        boundNames data ((name, b) :: l) = [name] := by
  rw [Binds, bindEach, boundNames, told]
  rcases Language.bind data b with ⟨_ | _, b'⟩
  case error => exact .inr ⟨_, rfl, rfl, rfl⟩
  case ok => exact .inl ⟨rfl, rfl, rfl⟩

theorem map_fst_bindEach (data : DataMap) (l : List (String × β)) :
    (bindEach data l).2.map (·.1) = l.map (·.1) := by
  induction l with
  | nil => rfl
  | cons p l ih =>
    obtain ⟨name, b⟩ := p
    rcases bindEach_cons_cases data name b l with ⟨-, heach, -⟩ | ⟨e, -, heach, -⟩
    · simp [heach, ih]
    · simp [heach]

theorem boundNames_prefix (data : DataMap) (l : List (String × β)) :
    boundNames data l <+: l.map (·.1) := by
  induction l with
  | nil => exact List.prefix_rfl
  | cons p l ih =>
    obtain ⟨name, b⟩ := p
    rcases bindEach_cons_cases data name b l with ⟨-, -, hnames⟩ | ⟨e, -, -, hnames⟩
    · simpa [hnames] using ih
    · simp [hnames]

theorem bindEach_ok_iff : (bindEach data l).1 = .ok () ↔ ∀ p ∈ l, Binds data p.2 := by
  induction l with
  | nil => simp [bindEach]
  | cons p l ih =>
    obtain ⟨name, b⟩ := p
    rcases bindEach_cons_cases data name b l with ⟨h, heach, -⟩ | ⟨e, he, heach, -⟩
    · simp [heach, ih, h]
    · simp [heach, not_binds_iff.2 ⟨e, he⟩]

section

variable {n : String} {c : β}

theorem bindBefore_head (hn : ∀ p ∈ l, n < p.1) : BindBefore data ((n, c) :: l) n := by
  intro p hp hlt
  rcases List.mem_cons.1 hp with rfl | hp
  · exact absurd hlt (lt_irrefl _)
  · exact absurd hlt (hn p hp).not_gt

theorem bindBefore_tail_iff (hlt : n < name) :
    BindBefore data ((n, c) :: l) name ↔ Binds data c ∧ BindBefore data l name := by
  unfold BindBefore
  rw [List.forall_mem_cons]
  exact and_congr_left' ⟨fun h => h hlt, fun h _ => h⟩

end

variable (hl : l.Pairwise fun p p' => p.1 < p'.1)

include hl

theorem bindEach_error_iff :
    (bindEach data l).1 = .error e ↔
      ∃ name b, (name, b) ∈ l ∧ (Language.bind data b).1 = .error e ∧ BindBefore data l name := by
  induction l with
  | nil => simp [bindEach]
  | cons p l ih =>
    obtain ⟨n, c⟩ := p
    obtain ⟨hn, hl⟩ := List.pairwise_cons.1 hl
    rcases bindEach_cons_cases data n c l with ⟨h, heach, -⟩ | ⟨e', he', heach, -⟩
    · rw [heach, ih hl]
      constructor
      · rintro ⟨name, b, hmem, hb, hbefore⟩
        exact ⟨name, b, List.mem_cons_of_mem _ hmem, hb,
          (bindBefore_tail_iff (hn _ hmem)).2 ⟨h, hbefore⟩⟩
      · rintro ⟨name, b, hmem, hb, hbefore⟩
        rcases List.mem_cons.1 hmem with heq | hmem
        · cases heq
          rw [h] at hb
          cases hb
        · exact ⟨name, b, hmem, hb, ((bindBefore_tail_iff (hn _ hmem)).1 hbefore).2⟩
    · have h := not_binds_iff.2 ⟨e', he'⟩
      rw [heach]
      constructor
      · intro heq
        cases heq
        exact ⟨n, c, List.mem_cons_self, he', bindBefore_head hn⟩
      · rintro ⟨name, b, hmem, hb, hbefore⟩
        rcases List.mem_cons.1 hmem with heq | hmem
        · cases heq
          exact he'.symm.trans hb
        · exact absurd ((bindBefore_tail_iff (hn _ hmem)).1 hbefore).1 h

theorem mem_bindEach_of_bindBefore (hmem : (name, b) ∈ l) (h : BindBefore data l name) :
    (name, told data b) ∈ (bindEach data l).2 := by
  induction l with
  | nil => cases hmem
  | cons p l ih =>
    obtain ⟨n, c⟩ := p
    obtain ⟨hn, hl⟩ := List.pairwise_cons.1 hl
    have hcases := bindEach_cons_cases data n c l
    rcases List.mem_cons.1 hmem with heq | hmem
    · cases heq
      rcases hcases with ⟨-, heach, -⟩ | ⟨e, -, heach, -⟩
      · rw [heach]
        exact List.mem_cons_self
      · rw [heach]
        exact List.mem_cons_self
    · obtain ⟨hc, h⟩ := (bindBefore_tail_iff (hn _ hmem)).1 h
      rcases hcases with ⟨-, heach, -⟩ | ⟨e, he, -, -⟩
      · rw [heach]
        exact List.mem_cons_of_mem _ (ih hl hmem h)
      · exact absurd hc (not_binds_iff.2 ⟨e, he⟩)

theorem mem_bindEach_of_not_bindBefore (hmem : (name, b) ∈ l) (h : ¬ BindBefore data l name) :
    (name, b) ∈ (bindEach data l).2 := by
  induction l with
  | nil => cases hmem
  | cons p l ih =>
    obtain ⟨n, c⟩ := p
    obtain ⟨hn, hl⟩ := List.pairwise_cons.1 hl
    rcases List.mem_cons.1 hmem with heq | hmem
    · cases heq
      exact absurd (bindBefore_head hn) h
    · rcases bindEach_cons_cases data n c l with ⟨hc, heach, -⟩ | ⟨e, -, heach, -⟩
      · rw [bindBefore_tail_iff (hn _ hmem), not_and] at h
        rw [heach]
        exact List.mem_cons_of_mem _ (ih hl hmem (h hc))
      · rw [heach]
        exact List.mem_cons_of_mem _ hmem

theorem mem_boundNames_iff :
    name ∈ boundNames data l ↔ name ∈ l.map (·.1) ∧ BindBefore data l name := by
  induction l with
  | nil => simp [boundNames]
  | cons p l ih =>
    obtain ⟨n, c⟩ := p
    obtain ⟨hn, hl⟩ := List.pairwise_cons.1 hl
    have hhead : BindBefore data ((n, c) :: l) n := bindBefore_head hn
    have htail (hmem : name ∈ l.map (·.1)) :
        BindBefore data ((n, c) :: l) name ↔ Binds data c ∧ BindBefore data l name := by
      obtain ⟨p, hp, rfl⟩ := List.mem_map.1 hmem
      exact bindBefore_tail_iff (hn p hp)
    rcases bindEach_cons_cases data n c l with ⟨h, -, hnames⟩ | ⟨e, he, -, hnames⟩
    · rw [hnames, List.map_cons, List.mem_cons, List.mem_cons, ih hl]
      constructor
      · rintro (rfl | ⟨hmem, hbefore⟩)
        · exact ⟨.inl rfl, hhead⟩
        · exact ⟨.inr hmem, (htail hmem).2 ⟨h, hbefore⟩⟩
      · rintro ⟨rfl | hmem, hbefore⟩
        · exact .inl rfl
        · exact .inr ⟨hmem, ((htail hmem).1 hbefore).2⟩
    · have h := not_binds_iff.2 ⟨e, he⟩
      rw [hnames, List.map_cons, List.mem_singleton, List.mem_cons]
      constructor
      · rintro rfl
        exact ⟨.inl rfl, hhead⟩
      · rintro ⟨rfl | hmem, hbefore⟩
        · rfl
        · exact absurd ((htail hmem).1 hbefore).1 h

omit hl

variable {r r' : Registry β}

def Reached (r : Registry β) (data : DataMap) (name : String) : Prop :=
  ∀ other c, r.languages[other]? = some c → other < name → Binds data c

theorem bindBefore_toList_iff : BindBefore data r.languages.toList name ↔ r.Reached data name := by
  simp only [BindBefore, Reached, Prod.forall, Std.TreeMap.mem_toList_iff_getElem?_eq_some]

omit [Language β] in
theorem ascending_toList (r : Registry β) : r.languages.toList.Pairwise fun p p' => p.1 < p'.1 :=
  Std.TreeMap.ordered_keys_toList.imp compare_lt_iff_lt.1

omit [Language β] in
theorem map_fst_toList (r : Registry β) : r.languages.toList.map (·.1) = r.names :=
  Std.TreeMap.map_fst_toList_eq_keys

omit [Language β] in
theorem ascending_names (r : Registry β) : r.names.Pairwise (· < ·) := by
  rw [← map_fst_toList, List.pairwise_map]
  exact r.ascending_toList

omit [Language β] in
theorem mem_names_iff : name ∈ r.names ↔ ∃ b, r.languages[name]? = some b := by
  rw [names, Std.TreeMap.mem_keys, ← Std.TreeMap.isSome_getElem?_iff_mem, Option.isSome_iff_exists]

theorem mem_languages_bind (h : (name, b) ∈ (bindEach data r.languages.toList).2) :
    (r.bind data).2.languages[name]? = some b := by
  refine Std.TreeMap.getElem?_ofList_of_mem Std.ReflCmp.compare_self ?_ h
  have hnames : ((bindEach data r.languages.toList).2.map (·.1)).Pairwise (· < ·) := by
    rw [map_fst_bindEach, map_fst_toList]
    exact r.ascending_names
  refine (List.pairwise_map.1 hnames).imp fun hlt heq => ?_
  rw [Std.LawfulEqCmp.compare_eq_iff_eq] at heq
  exact hlt.ne heq

theorem languages_bind_of_none (h : r.languages[name]? = none) :
    (r.bind data).2.languages[name]? = none := by
  refine Std.TreeMap.getElem?_ofList_of_contains_eq_false ?_
  rw [map_fst_bindEach, map_fst_toList, List.contains_eq_mem, decide_eq_false_iff_not, mem_names_iff, h]
  simp

theorem languages_bind_of_reached (h : r.Reached data name) :
    (r.bind data).2.languages[name]? = (r.languages[name]?).map (told data) := by
  cases hb : r.languages[name]? with
  | none => exact languages_bind_of_none hb
  | some b =>
    exact mem_languages_bind (mem_bindEach_of_bindBefore r.ascending_toList
      (Std.TreeMap.mem_toList_iff_getElem?_eq_some.2 hb) (bindBefore_toList_iff.2 h))

theorem languages_bind_of_not_reached (h : ¬ r.Reached data name) :
    (r.bind data).2.languages[name]? = r.languages[name]? := by
  cases hb : r.languages[name]? with
  | none => exact languages_bind_of_none hb
  | some b =>
    exact mem_languages_bind (mem_bindEach_of_not_bindBefore r.ascending_toList
      (Std.TreeMap.mem_toList_iff_getElem?_eq_some.2 hb) (mt bindBefore_toList_iff.1 h))

/-- The language of the name fails, and all languages of lesser names accept the data. -/
structure FirstFailure (r : Registry β) (data : DataMap) (name : String) (e : EngineError) :
    Prop where
  fails : ∃ b : β, r.languages[name]? = some b ∧ (Language.bind data b).1 = .error e
  reached : r.Reached data name

theorem bind_ok_iff :
    (r.bind data).1 = .ok () ↔
      ∀ (name : String) (b : β), r.languages[name]? = some b → Binds data b := by
  change (bindEach data r.languages.toList).1 = .ok () ↔ _
  simp only [bindEach_ok_iff, Prod.forall, Std.TreeMap.mem_toList_iff_getElem?_eq_some]

theorem bind_error_iff :
    (r.bind data).1 = .error e ↔ ∃ name, r.FirstFailure data name e := by
  change (bindEach data r.languages.toList).1 = .error e ↔ _
  rw [bindEach_error_iff r.ascending_toList]
  constructor
  · rintro ⟨name, b, hb, he, hbefore⟩
    exact ⟨name, ⟨b, Std.TreeMap.mem_toList_iff_getElem?_eq_some.1 hb, he⟩,
      bindBefore_toList_iff.1 hbefore⟩
  · rintro ⟨name, ⟨b, hb, he⟩, hreached⟩
    exact ⟨name, b, Std.TreeMap.mem_toList_iff_getElem?_eq_some.2 hb, he,
      bindBefore_toList_iff.2 hreached⟩

theorem Reached.of_lt {other : String} (h : r.Reached data name) (hlt : other < name) :
    r.Reached data other :=
  fun n c hc hn => h n c hc (hn.trans hlt)

theorem FirstFailure.not_reached {other : String} (h : r.FirstFailure data name e)
    (hlt : name < other) : ¬ r.Reached data other := by
  obtain ⟨⟨b, hb, he⟩, -⟩ := h
  intro hreached
  have hbinds := hreached name b hb hlt
  rw [Binds, he] at hbinds
  cases hbinds

structure Listening (β : Type) where
  language : β
  handed : List DataMap

instance : Language (Listening β) where
  name w := Language.name w.language
  bind data w := (Language.bind data w.language).map id (⟨·, w.handed ++ [data]⟩)
  evaluate code direction format w :=
    (Language.evaluate code direction format w.language).map id (⟨·, w.handed⟩)

def listen (r : Registry β) : Registry (Listening β) :=
  { languages := r.languages.map fun _ b => ⟨b, []⟩, aliases := r.aliases }

def handed (r : Registry β) (data : DataMap) (name : String) : List DataMap :=
  ((r.listen.bind data).2.languages[name]?).elim [] (·.handed)

omit [Language β] in
theorem languages_listen : r.listen.languages[name]? = (r.languages[name]?).map (⟨·, []⟩) :=
  Std.TreeMap.getElem?_map

theorem binds_listening {w : Listening β} : Binds data w ↔ Binds data w.language := Iff.rfl

theorem reached_listen : r.listen.Reached data name ↔ r.Reached data name := by
  unfold Reached
  refine forall_congr' fun other => ?_
  rw [languages_listen]
  cases r.languages[other]? <;> simp [binds_listening]

theorem handed_of_reached (hname : name ∈ r.names) (h : r.Reached data name) :
    r.handed data name = [data] := by
  obtain ⟨b, hb⟩ := mem_names_iff.1 hname
  rw [handed, languages_bind_of_reached (reached_listen.2 h), languages_listen, hb]
  rfl

theorem handed_of_not_reached (h : ¬ (name ∈ r.names ∧ r.Reached data name)) :
    r.handed data name = [] := by
  rw [mem_names_iff, not_and] at h
  cases hb : r.languages[name]? with
  | none =>
    have hlisten : r.listen.languages[name]? = none := by rw [languages_listen, hb]; rfl
    rw [handed, languages_bind_of_none hlisten]
    rfl
  | some b =>
    have hreached := mt reached_listen.1 (h ⟨b, hb⟩)
    rw [handed, languages_bind_of_not_reached hreached, languages_listen, hb]
    rfl

omit [Language β] in
/-- The list of the languages of a registry tells of them no more than lookups do. -/
theorem toList_eq (h : ∀ name : String, r.languages[name]? = r'.languages[name]?) :
    r.languages.toList = r'.languages.toList := by
  let before (p p' : String × β) : Prop := p.1 < p'.1
  have : Std.Irrefl before := ⟨fun p => lt_irrefl p.1⟩
  have : Std.Antisymm before := ⟨fun p p' hp hp' => absurd hp (lt_asymm hp')⟩
  have hr : r.languages.toList.Pairwise before := r.ascending_toList
  refine hr.eq_of_mem_iff r'.ascending_toList ?_
  rintro ⟨name, b⟩
  rw [Std.TreeMap.mem_toList_iff_getElem?_eq_some, Std.TreeMap.mem_toList_iff_getElem?_eq_some, h]

theorem languages_registers_congr (h : ∀ name : String, r.languages[name]? = r'.languages[name]?)
    (l : List β) (name : String) :
    (l.foldl register r).languages[name]? = (l.foldl register r').languages[name]? := by
  induction l generalizing r r' with
  | nil => exact h name
  | cons b l ih =>
    refine ih fun name => ?_
    rw [languages_register, languages_register, h]

theorem languages_registers_of_not_mem {l : List β}
    (h : name ∉ l.map fun b => Text.lower (Language.name b)) (r : Registry β) :
    (l.foldl register r).languages[name]? = r.languages[name]? := by
  induction l generalizing r with
  | nil => rfl
  | cons b l ih =>
    rw [List.map_cons, List.mem_cons, not_or] at h
    rw [List.foldl_cons, ih h.2, languages_register, if_neg (Ne.symm h.1)]

theorem languages_registers_of_mem {l : List β}
    (hl : (l.map fun b => Text.lower (Language.name b)).Nodup) (hb : b ∈ l) (r : Registry β) :
    (l.foldl register r).languages[Text.lower (Language.name b)]? = some b := by
  induction l generalizing r with
  | nil => cases hb
  | cons c l ih =>
    rw [List.map_cons, List.nodup_cons] at hl
    rcases List.mem_cons.1 hb with rfl | hb
    · rw [List.foldl_cons, languages_registers_of_not_mem hl.1, languages_register, if_pos rfl]
    · exact ih hl.2 hb _

/-- Languages of distinct names may be registered in any order. -/
theorem languages_registers_perm {l l' : List β} (hperm : l.Perm l')
    (hl : (l.map fun b => Text.lower (Language.name b)).Nodup) (r : Registry β) (name : String) :
    (l.foldl register r).languages[name]? = (l'.foldl register r).languages[name]? := by
  induction hperm generalizing r with
  | nil => rfl
  | cons b hperm ih => exact ih (List.nodup_cons.1 hl).2 _
  | swap b c l =>
    refine languages_registers_congr (fun name => ?_) l name
    have hne : Text.lower (Language.name c) ≠ Text.lower (Language.name b) :=
      fun heq => (List.nodup_cons.1 hl).1 (by simp [heq])
    simp only [languages_register]
    split
    case isTrue h => rw [if_neg (h ▸ hne)]
    case isFalse => rfl
  | trans hperm hperm' ih ih' =>
    rw [ih hl]
    exact ih' ((hperm.map _).nodup_iff.1 hl) r

/-- The languages are told the data in the order of their names, up to the first that fails, each
once and all the data. -/
structure ToldInOrder (r : Registry β) (data : DataMap) : Prop where
  ascending : r.names.Pairwise (· < ·)
  journal : boundNames data r.languages.toList <+: r.names
  mem_journal_iff : ∀ name,
    name ∈ boundNames data r.languages.toList ↔ name ∈ r.names ∧ r.Reached data name
  handed : ∀ name,
    r.handed data name = if name ∈ boundNames data r.languages.toList then [data] else []

/-- Binding the data has the result, and leaves the languages as `after` has them. -/
structure BoundUpToFailure (r : Registry β) (data : DataMap) (result : Except EngineError Unit)
    (after : Registry β) : Prop where
  ok_iff : result = .ok () ↔
    ∀ (name : String) (b : β), r.languages[name]? = some b → Binds data b
  error_iff : ∀ e, result = .error e ↔ ∃ name, r.FirstFailure data name e
  all : result = .ok () →
    ∀ name : String, after.languages[name]? = (r.languages[name]?).map (told data)
  upTo : ∀ name e, r.FirstFailure data name e →
    ∀ other ≤ name, after.languages[other]? = (r.languages[other]?).map (told data)
  beyond : ∀ name e, r.FirstFailure data name e →
    ∀ other, name < other → after.languages[other]? = r.languages[other]?
  aliases : after.aliases = r.aliases

theorem mem_boundNames_languages_iff :
    name ∈ boundNames data r.languages.toList ↔ name ∈ r.names ∧ r.Reached data name := by
  rw [mem_boundNames_iff r.ascending_toList, map_fst_toList, bindBefore_toList_iff]

theorem toldInOrder (r : Registry β) (data : DataMap) : r.ToldInOrder data where
  ascending := r.ascending_names
  journal := r.map_fst_toList ▸ boundNames_prefix data r.languages.toList
  mem_journal_iff _ := mem_boundNames_languages_iff
  handed name := by
    split
    case isTrue h =>
      obtain ⟨hname, hreached⟩ := mem_boundNames_languages_iff.1 h
      exact handed_of_reached hname hreached
    case isFalse h => exact handed_of_not_reached (mt mem_boundNames_languages_iff.2 h)

theorem boundUpToFailure (r : Registry β) (data : DataMap) :
    r.BoundUpToFailure data (r.bind data).1 (r.bind data).2 where
  ok_iff := bind_ok_iff
  error_iff _ := bind_error_iff
  all h name := languages_bind_of_reached fun other c hc _ => bind_ok_iff.1 h other c hc
  upTo name e h other hle := by
    rcases hle.lt_or_eq with hlt | rfl
    · exact languages_bind_of_reached (h.reached.of_lt hlt)
    · exact languages_bind_of_reached h.reached
  beyond name e h other hlt := languages_bind_of_not_reached (h.not_reached hlt)
  aliases := rfl

/-- Data are told to the languages in the order of their names, up to the first that fails, and the
order in which languages of distinct names were registered does not matter. -/
theorem bind_inOrder {β : Type} [Language β] (r : Registry β) (data : DataMap) :
    r.ToldInOrder data ∧ r.BoundUpToFailure data (r.bind data).1 (r.bind data).2 ∧
      ∀ l l' : List β, l.Perm l' → (l.map fun b => Text.lower (Language.name b)).Nodup →
        (∀ b ∈ l, (l.foldl register r).languages[Text.lower (Language.name b)]? = some b) ∧
          ((l.foldl register r).bind data).1 = ((l'.foldl register r).bind data).1 ∧
          ((l.foldl register r).bind data).2.languages =
            ((l'.foldl register r).bind data).2.languages ∧
          boundNames data (l.foldl register r).languages.toList =
            boundNames data (l'.foldl register r).languages.toList := by
  refine ⟨r.toldInOrder data, r.boundUpToFailure data, fun l l' hperm hl => ?_⟩
  have hlist : (l.foldl register r).languages.toList = (l'.foldl register r).languages.toList :=
    toList_eq (languages_registers_perm hperm hl r)
  refine ⟨fun b hb => languages_registers_of_mem hl hb r, ?_, ?_, ?_⟩
  · rw [bind, bind, hlist]
  · rw [bind, bind, hlist]
  · rw [hlist]

def dashedData : DataMap := [("a", .int 1), ("b-c", .null)]

def threeLanguages : Registry AnyLanguage := (AnyLanguage.all true).foldl register initial

theorem firstFailure_threeLanguages :
    threeLanguages.FirstFailure dashedData "js" (.binding "js" "variable name expected") := by
  have hnames : threeLanguages.names = ["cel", "js", "rhai"] := by rfl
  refine ⟨⟨.script .initial, by rfl, by rfl⟩, fun other c hc hlt => ?_⟩
  have hother : other ∈ threeLanguages.names := mem_names_iff.2 ⟨c, hc⟩
  simp only [hnames, List.mem_cons, List.not_mem_nil, or_false] at hother
  rcases hother with rfl | rfl | rfl
  · obtain rfl : AnyLanguage.cel {} = c := Option.some.inj hc
    rfl
  · exact absurd hlt (lt_irrefl _)
  · exact absurd hlt (by decide)

theorem bind_inOrder_dashedData :
    (((AnyLanguage.all true).Perm (AnyLanguage.all true).reverse ∧
          ((AnyLanguage.all true).map fun b => Text.lower (Language.name b)).Nodup) ∧
        threeLanguages.FirstFailure dashedData "js" (.binding "js" "variable name expected")) ∧
      (threeLanguages.bind dashedData).1 = .error (.binding "js" "variable name expected") ∧
        (threeLanguages.bind dashedData).2.languages["cel"]? = some (told dashedData (.cel {})) ∧
          (threeLanguages.bind dashedData).2.languages["rhai"]? = some (.rhai {}) ∧
            (((AnyLanguage.all true).reverse.foldl register initial).bind dashedData).1 =
              .error (.binding "js" "variable name expected") := by
  have hperm := (List.reverse_perm (AnyLanguage.all true)).symm
  have hnodup : ((AnyLanguage.all true).map fun b => Text.lower (Language.name b)).Nodup := by decide
  have hfail := firstFailure_threeLanguages
  obtain ⟨-, hbound, -⟩ := bind_inOrder threeLanguages dashedData
  obtain ⟨-, -, horder⟩ := bind_inOrder (initial (β := AnyLanguage)) dashedData
  have herror := (hbound.error_iff _).2 ⟨_, hfail⟩
  exact ⟨⟨⟨hperm, hnodup⟩, hfail⟩, herror, hbound.upTo _ _ hfail "cel" (by decide),
    hbound.beyond _ _ hfail "rhai" (by decide),
    (horder _ _ hperm hnodup).2.1.symm.trans herror⟩

end Registry

end SheetTemplate
