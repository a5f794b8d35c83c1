import Mathlib.Data.List.Forall2
import SheetTemplate.Proofs.DataBinding
import SheetTemplate.Proofs.DeclaredNames
import SheetTemplate.Proofs.FolderLoading

namespace SheetTemplate

namespace Script

variable {α β : Type}

/-- The run succeeds, and all that it does to the realm is to add objects. -/
def OnlyMakes (run : Run α) : Prop :=
  ∀ r, ∃ a more, outcome run r = (.ok a, { r with objects := r.objects ++ more })

theorem onlyMakes_pure (a : α) : OnlyMakes (pure a) := fun r => ⟨a, #[], by simp; rfl⟩

theorem OnlyMakes.bind {x : Run α} {f : α → Run β} (hx : OnlyMakes x)
    (hf : ∀ a, OnlyMakes (f a)) : OnlyMakes (x >>= f) := by
  intro r
  obtain ⟨a, more, hx⟩ := hx r
  obtain ⟨b, rest, hf⟩ := hf a { r with objects := r.objects ++ more }
  refine ⟨b, more ++ rest, ?_⟩
  rw [outcome_bind, hx]
  dsimp only
  rw [hf, Array.append_assoc]

theorem onlyMakes_newObject (o : Object) : OnlyMakes (newObject o) :=
  fun r => ⟨.object r.objects.size, #[o], by rw [← Array.push_eq_append]; rfl⟩

mutual

theorem onlyMakes_ofJson : ∀ v : Json, OnlyMakes (ofJson v)
  | .null | .bool _ | .int _ | .float _ | .str _ => onlyMakes_pure _
  | .arr items => (onlyMakes_ofItems items).bind fun _ => onlyMakes_newObject _
  | .obj fields => (onlyMakes_ofFields fields).bind fun _ => onlyMakes_newObject _

theorem onlyMakes_ofItems : ∀ items : List Json, OnlyMakes (ofItems items)
  | [] => onlyMakes_pure _
  | v :: items =>
    (onlyMakes_ofJson v).bind fun _ => (onlyMakes_ofItems items).bind fun _ => onlyMakes_pure _

theorem onlyMakes_ofFields : ∀ fields : List (String × Json), OnlyMakes (ofFields fields)
  | [] => onlyMakes_pure _
  | (_, v) :: fields =>
    (onlyMakes_ofJson v).bind fun _ => (onlyMakes_ofFields fields).bind fun _ => onlyMakes_pure _

end

/-- The outermost names are these, each that of a constant with a value; the global object has no
fields. -/
structure Holds (r : Realm) (names : List String) : Prop where
  global : r.objects[globalId]? = some ⟨.global, []⟩
  constant : ∀ name ∈ names, ∃ i x,
    r.lexicals.lookup name = some i ∧ r.cells[i]? = some ⟨some x, true⟩
  free : ∀ name ∉ names, r.lexicals.lookup name = none

variable {r r' : Realm} {taken names : List String} {key name : String} {v : Json} {data : DataMap}

theorem holds_initial : Holds .initial [] where
  global := rfl
  constant := by simp
  free _ _ := rfl

theorem Holds.of_mem_iff (h : Holds r taken) (hmem : ∀ name, name ∈ names ↔ name ∈ taken) :
    Holds r names where
  global := h.global
  constant name hname := h.constant name ((hmem name).1 hname)
  free name hname := h.free name (mt (hmem name).2 hname)

def Free (taken : List String) (name : String) : Prop := name ∉ taken ∧ name ∉ fixedNames

instance : DecidablePred (Free taken) :=
  fun name => inferInstanceAs (Decidable (name ∉ taken ∧ name ∉ fixedNames))

theorem taken_iff (h : Holds r taken) :
    ((r.lexicals.lookup name).isSome ||
      (r.objects[globalId]?.bind fun o => o.fields.lookup name).isSome ||
        fixedNames.contains name) = true ↔ ¬ Free taken name := by
  have hglobal : (r.objects[globalId]?.bind fun o => o.fields.lookup name) = none := by
    rw [h.global]
    rfl
  have hlexical : (r.lexicals.lookup name).isSome ↔ name ∈ taken := by
    by_cases hmem : name ∈ taken
    · obtain ⟨i, x, hi, -⟩ := h.constant name hmem
      simp [hi, hmem]
    · simp [h.free name hmem, hmem]
  rw [hglobal, Option.isSome_none, Bool.or_false, Bool.or_eq_true, hlexical, Free]
  simp only [List.contains_eq_mem, decide_eq_true_eq]
  tauto

theorem outcome_declareLexical (h : Holds r taken) (name : String) (c : Cell) :
    outcome (declareLexical name c) r =
      if Free taken name then (.ok (), { r with
        cells := r.cells.push c, lexicals := (name, r.cells.size) :: r.lexicals })
      else outcome (redeclared name) r := by
  have hget : outcome (get : Run Realm) r = (.ok r, r) := rfl
  have hslot : outcome (globalSlot? name) r =
      (.ok (r.objects[globalId]?.bind fun o => o.fields.lookup name), r) := rfl
  rw [declareLexical, outcome_bind, hget]
  dsimp only
  rw [outcome_bind, hslot]
  dsimp only
  by_cases hfree : Free taken name
  · rw [if_pos hfree, if_neg ((taken_iff h).not.2 (not_not.2 hfree))]
    rfl
  · rw [if_neg hfree, if_pos ((taken_iff h).2 hfree)]

theorem outcome_setFirst {i : Nat} (h : r.lexicals.lookup name = some i) (x : Value) :
    outcome (setFirst outermost name x true) r =
      (.ok (), { r with cells := r.cells.setIfInBounds i ⟨some x, true⟩ }) := by
  have haddress : outcome (address? outermost name) r = (.ok (r.lexicals.lookup name), r) := rfl
  rw [setFirst, outcome_bind, haddress, h]
  rfl

/-- Objects that are added do not touch the constants, and one more name is that of the new cell. -/
theorem Holds.declare (h : Holds r taken) (hfree : Free taken name) (x : Value)
    (more : Array Object) :
    Holds ⟨r.objects ++ more, r.cells.push ⟨some x, true⟩, (name, r.cells.size) :: r.lexicals,
      r.symbols⟩ (name :: taken) where
  global := by
    obtain ⟨hsize, -⟩ := Array.getElem?_eq_some_iff.1 h.global
    rw [Array.getElem?_append_left hsize, h.global]
  constant := by
    intro n hn
    by_cases hsame : n = name
    · subst hsame
      exact ⟨r.cells.size, x, List.lookup_cons_self, Array.getElem?_push_size⟩
    · obtain ⟨i, y, hi, hcell⟩ := h.constant n ((List.mem_cons.1 hn).resolve_left hsame)
      obtain ⟨hsize, -⟩ := Array.getElem?_eq_some_iff.1 hcell
      refine ⟨i, y, ?_, ?_⟩
      · rw [List.lookup_cons, beq_false_of_ne hsame]
        exact hi
      · rw [Array.getElem?_push_lt hsize, ← hcell, Array.getElem?_eq_getElem]
  free := by
    intro n hn
    rw [List.mem_cons, not_or] at hn
    rw [List.lookup_cons, beq_false_of_ne hn.1]
    exact h.free n hn.2

theorem bindVariable_ok (h : Holds r taken) (hname : declaredName? key = some name)
    (hfree : Free taken name) (v : Json) :
    ∃ r', outcome (bindVariable key v) r = (.ok (), r') ∧ Holds r' (name :: taken) := by
  rw [bindVariable, hname]
  dsimp only
  rw [outcome_bind, outcome_declareLexical h, if_pos hfree]
  dsimp only
  obtain ⟨x, more, hvalue⟩ := onlyMakes_ofJson v
    { r with cells := r.cells.push ⟨none, true⟩, lexicals := (name, r.cells.size) :: r.lexicals }
  rw [outcome_bind, hvalue]
  dsimp only
  have hcells : (r.cells.push ⟨none, true⟩).setIfInBounds r.cells.size ⟨some x, true⟩ =
      r.cells.push ⟨some x, true⟩ := by
    grind
  rw [outcome_setFirst List.lookup_cons_self, hcells]
  exact ⟨_, rfl, h.declare hfree x more⟩

theorem exists_name_of_bindVariable (h : Holds r taken)
    (hrun : outcome (bindVariable key v) r = (.ok (), r')) :
    ∃ name, declaredName? key = some name ∧ Free taken name := by
  cases hname : declaredName? key with
  | none =>
    rw [bindVariable, hname] at hrun
    cases hrun
  | some name =>
    refine ⟨name, rfl, by_contra fun hfree => ?_⟩
    rw [bindVariable, hname] at hrun
    dsimp only at hrun
    rw [outcome_bind, outcome_declareLexical h, if_neg hfree] at hrun
    cases hrun

structure NameConstants (taken keys names : List String) : Prop where
  declared : List.Forall₂ (fun key name => declaredName? key = some name) keys names
  nodup : names.Nodup
  free : ∀ name ∈ names, Free taken name

theorem nameConstants_cons_iff {keys : List String} :
    NameConstants taken (key :: keys) (name :: names) ↔ declaredName? key = some name ∧
      Free taken name ∧ NameConstants (name :: taken) keys names := by
  constructor
  · rintro ⟨hdeclared, hnodup, hfree⟩
    obtain ⟨hname, hdeclared⟩ := List.forall₂_cons.1 hdeclared
    obtain ⟨hnew, hnodup⟩ := List.nodup_cons.1 hnodup
    refine ⟨hname, hfree name List.mem_cons_self, hdeclared, hnodup, fun n hn => ?_⟩
    obtain ⟨htaken, hfixed⟩ := hfree n (List.mem_cons_of_mem _ hn)
    exact ⟨List.not_mem_cons_of_ne_of_not_mem (fun hsame => hnew (hsame ▸ hn)) htaken, hfixed⟩
  · rintro ⟨hname, hfree, hdeclared, hnodup, hrest⟩
    have hnew : name ∉ names := fun hmem => (hrest name hmem).1 List.mem_cons_self
    refine ⟨.cons hname hdeclared, List.nodup_cons.2 ⟨hnew, hnodup⟩, ?_⟩
    refine List.forall_mem_cons.2 ⟨hfree, fun n hn => ?_⟩
    obtain ⟨htaken, hfixed⟩ := hrest n hn
    exact ⟨fun hmem => htaken (List.mem_cons_of_mem _ hmem), hfixed⟩

theorem NameConstants.sublist {keys part : List String} (h : NameConstants taken keys names)
    (hsub : part.Sublist keys) : ∃ names', NameConstants taken part names' := by
  have hdeclared : keys.map declaredName? = names.map some := by
    rw [← List.forall₂_eq_eq_eq, List.forall₂_map_left_iff, List.forall₂_map_right_iff]
    exact h.declared
  obtain ⟨names', hnames, hdeclared'⟩ := List.sublist_map_iff.1 (hdeclared ▸ hsub.map declaredName?)
  refine ⟨names', ?_, h.nodup.sublist hnames, fun name hname => h.free name (hnames.mem hname)⟩
  rwa [← List.forall₂_eq_eq_eq, List.forall₂_map_left_iff, List.forall₂_map_right_iff]
    at hdeclared'

theorem bindAll_ok (h : Holds r taken) (hnames : NameConstants taken data.keys names) :
    ∃ r', outcome (bindAll data) r = (.ok (), r') ∧ Holds r' (names.reverse ++ taken) := by
  induction data generalizing r taken names with
  | nil =>
    obtain rfl := List.forall₂_nil_left_iff.1 hnames.declared
    exact ⟨r, rfl, h⟩
  | cons p data ih =>
    obtain ⟨name, names, -, -, rfl⟩ := List.forall₂_cons_left_iff.1 hnames.declared
    obtain ⟨hname, hfree, hnames⟩ := nameConstants_cons_iff.1 hnames
    obtain ⟨r₁, hfirst, h⟩ := bindVariable_ok h hname hfree p.2
    obtain ⟨r₂, hrest, h⟩ := ih h hnames
    refine ⟨r₂, ?_, by simpa using h⟩
    rw [bindAll, outcome_bind, hfirst]
    exact hrest

theorem exists_names_of_bindAll (h : Holds r taken)
    (hrun : outcome (bindAll data) r = (.ok (), r')) :
    ∃ names, NameConstants taken data.keys names := by
  induction data generalizing r taken with
  | nil => exact ⟨[], .nil, List.nodup_nil, by simp⟩
  | cons p data ih =>
    rw [bindAll, outcome_bind_eq_ok_iff] at hrun
    obtain ⟨_, r₁, hfirst, hrest⟩ := hrun
    obtain ⟨name, hname, hfree⟩ := exists_name_of_bindVariable h hfirst
    obtain ⟨r₂, hsame, h⟩ := bindVariable_ok h hname hfree p.2
    obtain rfl : r₁ = r₂ := congrArg Prod.snd (hfirst.symm.trans hsame)
    obtain ⟨names, hnames⟩ := ih h hrest
    exact ⟨name :: names, nameConstants_cons_iff.2 ⟨hname, hfree, hnames⟩⟩

theorem bindData_eq (data : DataMap) (r : Realm) :
    bindData data r =
      match outcome (bindAll data) r with
      | (.ok _, r') => (.ok (), r')
      | (.error thrown, r') =>
        (.error (.binding "js" ((describe thrown).run r').1), ((describe thrown).run r').2) :=
  rfl

theorem bindData_ok (h : NameConstants [] data.keys names) :
    ∃ r, bindData data .initial = (.ok (), r) ∧ Holds r names := by
  obtain ⟨r, hrun, hholds⟩ := bindAll_ok holds_initial h
  exact ⟨r, by rw [bindData_eq, hrun], hholds.of_mem_iff (by simp)⟩

theorem bindData_error (h : ∀ names, ¬ NameConstants [] data.keys names) :
    ∃ reason, (bindData data .initial).1 = .error (.binding "js" reason) := by
  rw [bindData_eq]
  rcases hrun : outcome (bindAll data) .initial with ⟨thrown | _, r⟩
  · exact ⟨_, rfl⟩
  · obtain ⟨names, hnames⟩ := exists_names_of_bindAll holds_initial hrun
    exact absurd hnames (h names)

end Script

namespace Registry

variable {β : Type} [Language β] {l : List β} {b : β} {name : String}

theorem mem_of_languages_registers (hl : (l.map fun b => Text.lower (Language.name b)).Nodup)
    (h : (l.foldl register initial).languages[name]? = some b) :
    b ∈ l ∧ Text.lower (Language.name b) = name := by
  by_cases hname : name ∈ l.map fun b => Text.lower (Language.name b)
  · obtain ⟨c, hc, rfl⟩ := List.mem_map.1 hname
    rw [languages_registers_of_mem hl hc, Option.some.injEq] at h
    exact ⟨h ▸ hc, by rw [h]⟩
  · rw [languages_registers_of_not_mem hname, initial, Std.TreeMap.getElem?_emptyc] at h
    cases h

/-- Scripts alone may refuse data. -/
theorem binds_or_script {withCel : Bool} {b : AnyLanguage} (hb : b ∈ AnyLanguage.all withCel)
    (data : DataMap) : Binds data b ∨ b = .script .initial := by
  simp only [AnyLanguage.all, List.mem_append, List.mem_cons, List.not_mem_nil, or_false] at hb
  rcases hb with (rfl | rfl) | hb
  · exact .inl rfl
  · exact .inr rfl
  · obtain rfl : b = .cel {} := by
      cases withCel <;> simp_all
    exact .inl rfl

theorem bind_all (withCel : Bool) (data : DataMap) :
    (((AnyLanguage.all withCel).foldl register initial).bind data).1 =
      (Script.bindData data .initial).1 := by
  have hl : ((AnyLanguage.all withCel).map fun b => Text.lower (Language.name b)).Nodup := by
    cases withCel <;> decide
  cases hscript : (Script.bindData data .initial).1 with
  | ok =>
    refine bind_ok_iff.2 fun name b hb => ?_
    rcases binds_or_script (mem_of_languages_registers hl hb).1 data with hbinds | rfl
    · exact hbinds
    · exact hscript
  | error e =>
    have hjs : AnyLanguage.script .initial ∈ AnyLanguage.all withCel := by simp [AnyLanguage.all]
    refine bind_error_iff.2 ⟨"js", ⟨_, languages_registers_of_mem hl hjs initial, hscript⟩, ?_⟩
    intro other c hc hlt
    obtain ⟨hmem, hname⟩ := mem_of_languages_registers hl hc
    rcases binds_or_script hmem data with hbinds | rfl
    · exact hbinds
    · exact absurd (hname ▸ hlt) (by decide)

end Registry

namespace Loader

open Logged SheetTemplate.Path

theorem no_slash_of_mem_keys {fs : Files} {path key : String} {data : DataMap}
    (h : ((folder defaultParts).load fs path).result = .ok data)
    (hkey : key ∈ data.keys) : '/' ∉ key.toList := by
  have hget : fs.get path = .ok .folder := by
    simp only [folder] at h
    split at h
    · cases h
    · cases h
    · assumption
  obtain ⟨here, hplace, hfolder⟩ := bind_eq_ok_iff.1 hget
  have hfolder : fs.node? here = some .folder := by
    split at hfolder
    · rename_i n hn
      obtain rfl := Except.ok.inj hfolder
      exact hn
    · cases hfolder
  obtain ⟨-, -, hfind⟩ := ((load_iff steady_defaultParts hplace hfolder).1 data).1 h
  obtain ⟨v, hv⟩ := DataMap.mem_keys_iff.1 hkey
  obtain ⟨name, part, loaded, haccepted, -⟩ := (hfind key v).1 hv
  exact Path.not_mem_of_stem? haccepted.stem_eq

/-- The keys spell different names that constants may have. -/
structure SpellConstants (keys names : List String) : Prop where
  spelled : List.Forall₂ Script.Spells keys names
  nodup : names.Nodup
  not_fixed : ∀ name ∈ names, name ∉ Script.fixedNames

theorem spellConstants_iff {keys names : List String} (h : ∀ key ∈ keys, '/' ∉ key.toList) :
    SpellConstants keys names ↔ Script.NameConstants [] keys names := by
  have hcongr (key name : String) : '/' ∉ key.toList ∧ Script.Spells key name ↔
      '/' ∉ key.toList ∧ Script.declaredName? key = some name :=
    and_congr_right fun hkey => (Script.declaredName?_eq_some_iff hkey).symm
  have hkeys : List.Forall₂ Script.Spells keys names ↔
      List.Forall₂ (fun key name => Script.declaredName? key = some name) keys names := by
    rw [← and_iff_right (b := List.Forall₂ _ _ _) h, ← List.forall₂_and_left]
    simp only [hcongr]
    rw [List.forall₂_and_left, and_iff_right h]
  constructor
  · rintro ⟨hspelled, hnodup, hfixed⟩
    exact ⟨hkeys.1 hspelled, hnodup, fun name hname => ⟨List.not_mem_nil, hfixed name hname⟩⟩
  · rintro ⟨hdeclared, hnodup, hfree⟩
    exact ⟨hkeys.2 hdeclared, hnodup, fun name hname => (hfree name hname).2⟩

/-- The data of a folder become constants of scripts if all names of files spell different names
for constants. If the plain ones among them do not, scripts refuse the data; all languages together
do as scripts do. -/
theorem bindData_folder (fs : Files) (path : String) (journal : Journal) (data : DataMap)
    (hload : (outcome ((folder defaultParts).load fs path) journal).1 = .ok data) :
    (∀ names, SpellConstants data.keys names →
        ∃ realm, Script.bindData data .initial = (.ok (), realm) ∧ Script.Holds realm names) ∧
      ((∀ names, ¬ SpellConstants (data.keys.filter Script.isPlain) names) →
        ∃ reason, (Script.bindData data .initial).1 = .error (.binding "js" reason)) ∧
      ∀ withCel,
        (((AnyLanguage.all withCel).foldl Registry.register Registry.initial).bind data).1 =
          (Script.bindData data .initial).1 := by
  have hresult : ((folder defaultParts).load fs path).result = .ok data :=
    (steady_folder steady_defaultParts fs path journal).symm.trans hload
  have hslash : ∀ key ∈ data.keys, '/' ∉ key.toList := fun key => no_slash_of_mem_keys hresult
  refine ⟨fun names h => ?_, fun h => ?_, fun withCel => Registry.bind_all withCel data⟩
  · exact Script.bindData_ok ((spellConstants_iff hslash).1 h)
  · refine Script.bindData_error fun names hnames => ?_
    have hplain : (data.keys.filter Script.isPlain).Sublist data.keys := List.filter_sublist
    obtain ⟨names', hnames'⟩ := hnames.sublist hplain
    exact h names' ((spellConstants_iff fun key hkey => hslash key (hplain.mem hkey)).2 hnames')

def oneFile (name : String) : Files :=
  { nodes := [(["data"], .folder), (["data", name], .file "1".toUTF8)] }

theorem load_oneFile (name : String) (hname : IsName name)
    (hpart : defaultParts.find? (·.accepts (join "data" name)) =
      some ⟨json, (hasExtension · ["json"])⟩) (journal : Journal) :
    (outcome ((folder defaultParts).load (oneFile name) "data") journal).1 =
      .ok [(stem name, .int 1)] := by
  have hplace : (oneFile name).locate "data" = .ok ["data"] := by cbv
  have hnames : (oneFile name).names "data" = .ok [name] := by
    rw [Files.names, hplace, ok_bind]
    rfl
  have hfile : (oneFile name).get (join "data" name) = .ok (.file "1".toUTF8) := by
    rw [Files.get_join_eq_ok_iff hplace rfl hname]
    simp [oneFile, Files.node?]
  have hfiles : filesIn (oneFile name) "data" = .ok [join "data" name] := by
    rw [filesIn, hnames, ok_bind, List.mergeSort_singleton, List.map_singleton,
      List.filter_singleton, hfile]
    rfl
  have hfolder : (oneFile name).get "data" = .ok .folder := by
    rw [Files.get, hplace]
    rfl
  have hvalue : (String.fromUTF8? "1".toUTF8).bind JsonText.ofText? = some (.int 1) := by cbv
  have hjson : json.load (oneFile name) (join "data" name) = pure (single (.int 1)) := by
    simp only [json, Files.read, hfile, ok_bind]
    simp only [pure, Except.pure, hvalue]
  have hload : (folder defaultParts).load (oneFile name) "data" =
      [join "data" name].foldlM (loadFile defaultParts (oneFile name)) [] := by
    simp only [folder, hfolder, hfiles]
  rw [hload, List.foldlM_cons, loadFile, stem?_join (by decide) hname]
  simp only [hpart, hjson]
  rw [String.ofList_toList]
  rfl

theorem load_sales (journal : Journal) :
    (outcome ((folder defaultParts).load (oneFile "sales.json") "data") journal).1 =
      .ok [("sales", .int 1)] := by
  have hjoin : join "data" "sales.json" = "data/sales.json" := by cbv
  have hstem : stem "sales.json" = "sales" := by decide
  rw [← hstem]
  exact load_oneFile _ ⟨by decide, by decide⟩ (by rw [hjoin]; rfl) journal

theorem bindData_folder_sales :
    (outcome ((folder defaultParts).load (oneFile "sales.json") "data") #[]).1 =
        .ok [("sales", .int 1)] ∧
      SpellConstants ["sales"] ["sales"] ∧
        ∃ realm, Script.bindData [("sales", .int 1)] .initial = (.ok (), realm) ∧
          Script.Holds realm ["sales"] := by
  have hname : Script.IsConstantName "sales" :=
    ⟨⟨'s', ['a', 'l', 'e', 's'], by decide, by decide, List.all_eq_true.1 (by decide)⟩, by decide⟩
  have hspells : SpellConstants ["sales"] ["sales"] :=
    ⟨.cons hname.spells .nil, by decide, by decide⟩
  exact ⟨load_sales #[], hspells,
    (bindData_folder (oneFile "sales.json") "data" #[] _ (load_sales #[])).1 ["sales"] hspells⟩

/-- A dash in the name of a file. -/
theorem not_forall_folder_bound :
    ¬ ∀ (fs : Files) (path : String) (journal : Journal) (data : DataMap),
      (outcome ((folder defaultParts).load fs path) journal).1 = .ok data →
        (Script.bindData data .initial).1 = .ok () := by
  intro h
  have hjoin : join "data" "my-data.json" = "data/my-data.json" := by cbv
  have hload := load_oneFile "my-data.json" ⟨by decide, by decide⟩ (by rw [hjoin]; rfl) #[]
  have hbound := h _ _ _ _ hload
  have hstem : stem "my-data.json" = "my-data" := by decide
  rw [hstem] at hbound
  cases hbound

end Loader

end SheetTemplate
