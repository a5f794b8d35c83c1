import Mathlib
import SheetTemplate.Proofs.AllOrNothing
import SheetTemplate.Proofs.FolderContents

namespace SheetTemplate

namespace DataMap

variable {m m' : DataMap} {k key : String} {v value : Json}

theorem find?_cons : find? ((key, value) :: m) k = if k = key then some value else m.find? k := by
  by_cases h : k = key
  · simp [find?, h]
  · simp [find?, List.lookup_cons, h, beq_eq_false_iff_ne.2 h]

theorem find?_insert :
    (m.insert key value).find? k = if k = key then some value else m.find? k := by
  induction m with
  | nil => exact find?_cons
  | cons p rest ih =>
    rw [insert]
    split
    · exact find?_cons
    · split
      · rename_i h
        rw [find?_cons, find?_cons, h]
        split <;> rfl
      · rename_i h
        rw [find?_cons, find?_cons, ih]
        by_cases hk : k = p.1
        · rw [if_pos hk, if_pos hk, if_neg]
          rintro rfl
          exact h hk
        · rw [if_neg hk, if_neg hk]

theorem mem_keys_iff : k ∈ m.keys ↔ ∃ v, m.find? k = some v := by
  induction m with
  | nil => simp [keys, find?]
  | cons p rest ih =>
    obtain ⟨key, value⟩ := p
    rw [find?_cons]
    by_cases h : k = key
    · simp [keys, h]
    · simpa [keys, h] using ih

theorem mem_keys_insert : k ∈ (m.insert key value).keys ↔ k = key ∨ k ∈ m.keys := by
  simp only [mem_keys_iff, find?_insert]
  by_cases h : k = key <;> simp [h]

theorem pairwise_keys_insert (h : m.keys.Pairwise (· < ·)) :
    (m.insert key value).keys.Pairwise (· < ·) := by
  induction m with
  | nil => simp [insert, keys]
  | cons p rest ih =>
    obtain ⟨hfirst, hrest⟩ := List.pairwise_cons.1 h
    rw [insert]
    split
    · rename_i hlt
      refine List.pairwise_cons.2 ⟨fun k hk => ?_, h⟩
      rcases List.mem_cons.1 hk with rfl | hk
      · exact hlt
      · exact String.lt_trans hlt (hfirst k hk)
    · rename_i hge
      split
      · rename_i heq
        exact List.pairwise_cons.2 ⟨heq ▸ hfirst, hrest⟩
      · rename_i hne
        refine List.pairwise_cons.2 ⟨fun k hk => ?_, ih hrest⟩
        rcases mem_keys_insert.1 hk with rfl | hk
        · exact String.not_le.1 fun hle => hne (String.le_antisymm hle (String.not_lt.1 hge))
        · exact hfirst k hk

theorem find?_of_before (h : ∀ key ∈ m.keys, k < key) : m.find? k ≠ some v := fun hk =>
  String.lt_irrefl k (h k (mem_keys_iff.2 ⟨v, hk⟩))

/-- Maps that bind the same are the same. -/
theorem ext_find? (h : m.keys.Pairwise (· < ·)) (h' : m'.keys.Pairwise (· < ·))
    (hfind : ∀ k v, m.find? k = some v ↔ m'.find? k = some v) : m = m' := by
  induction m generalizing m' with
  | nil =>
    cases m' with
    | nil => rfl
    | cons p' rest' => cases (hfind p'.1 p'.2).2 (find?_cons.trans (if_pos rfl))
  | cons p rest ih =>
    have hp := (hfind p.1 p.2).1 (find?_cons.trans (if_pos rfl))
    cases m' with
    | nil => cases hp
    | cons p' rest' =>
      obtain ⟨hfirst, hrest⟩ := List.pairwise_cons.1 h
      obtain ⟨hfirst', hrest'⟩ := List.pairwise_cons.1 h'
      have hp' := (hfind p'.1 p'.2).2 (find?_cons.trans (if_pos rfl))
      -- Were the first keys different, each would stand behind the other.
      have hkey : p.1 = p'.1 := by
        refine Decidable.byContradiction fun hne => ?_
        have hlt := hfirst' p.1 ((List.mem_cons.1 (mem_keys_iff.2 ⟨_, hp⟩)).resolve_left hne)
        have hlt' := hfirst p'.1
          ((List.mem_cons.1 (mem_keys_iff.2 ⟨_, hp'⟩)).resolve_left (Ne.symm hne))
        exact String.lt_asymm hlt hlt'
      rw [find?_cons, if_pos hkey] at hp
      have hpair : p' = p := Prod.ext hkey.symm (Option.some.inj hp)
      subst hpair
      refine congrArg (p' :: ·) (ih hrest hrest' fun k v => ?_)
      have hk := hfind k v
      rw [find?_cons, find?_cons] at hk
      by_cases heq : k = p'.1
      · rw [heq]
        exact iff_of_false (find?_of_before hfirst) (find?_of_before hfirst')
      · rwa [if_neg heq, if_neg heq] at hk

end DataMap

namespace Logged

variable {ε α β : Type}

theorem result_bind {x : Logged ε α} {f : α → Logged ε β} (hf : ∀ a, (f a).Steady) :
    result (x >>= f) = x.result >>= fun a => (f a).result := by
  unfold result
  rw [outcome_bind]
  rcases outcome x #[] with ⟨e | a, j⟩
  · rfl
  · exact hf a j

theorem result_foldlM {f : β → α → Logged ε β} (hf : ∀ b a, (f b a).Steady) (l : List α) (b : β) :
    (l.foldlM f b).result = l.foldlM (fun b a => (f b a).result) b := by
  induction l generalizing b with
  | nil => rfl
  | cons a l ih =>
    rw [List.foldlM_cons, List.foldlM_cons, result_bind fun b => .foldlM hf l b]
    exact congrArg _ (funext ih)

end Logged

section

variable {ε : Type} {entry : String → Option (Except ε (String × Json))} {names : List String}
  {m : DataMap}

def bindEntry (m : DataMap) : Option (Except ε (String × Json)) → Except ε DataMap
  | none => .ok m
  | some r => r.map fun p => m.insert p.1 p.2

def LastEntry (entry : String → Option (Except ε (String × Json))) (names : List String)
    (k : String) (v : Json) : Prop :=
  ∃ name ∈ names, entry name = some (.ok (k, v)) ∧
    ∀ name' ∈ names, ∀ w, entry name' = some (.ok (k, w)) → name' ≤ name

theorem exists_bindEntry {r : Option (Except ε (String × Json))} (h : ∀ e, r ≠ some (.error e)) :
    ∃ m', bindEntry m r = .ok m' := by
  rcases r with _ | e | p
  · exact ⟨m, rfl⟩
  · exact absurd rfl (h e)
  · exact ⟨_, rfl⟩

theorem foldlM_bindEntry_error {front back : List String} {name : String} {e : ε}
    (hfront : ∀ n ∈ front, ∀ e, entry n ≠ some (.error e)) (hname : entry name = some (.error e)) :
    (front ++ name :: back).foldlM (fun m n => bindEntry m (entry n)) m = .error e := by
  induction front generalizing m with
  | nil =>
    rw [List.nil_append, List.foldlM_cons, hname]
    rfl
  | cons n front ih =>
    obtain ⟨hn, hfront⟩ := List.forall_mem_cons.1 hfront
    obtain ⟨m', hm'⟩ := exists_bindEntry (m := m) hn
    rw [List.cons_append, List.foldlM_cons, hm', ok_bind]
    exact ih hfront

/-- Either no name fails, or there is a first one that does. -/
theorem first_failure (entry : String → Option (Except ε (String × Json))) (names : List String) :
    (∀ n ∈ names, ∀ e, entry n ≠ some (.error e)) ∨
      ∃ front name back e, names = front ++ name :: back ∧
        (∀ n ∈ front, ∀ e, entry n ≠ some (.error e)) ∧ entry name = some (.error e) := by
  induction names with
  | nil => exact .inl (by simp)
  | cons n names ih =>
    by_cases hn : ∃ e, entry n = some (.error e)
    · obtain ⟨e, he⟩ := hn
      exact .inr ⟨[], n, names, e, rfl, by simp, he⟩
    · have hn : ∀ e, entry n ≠ some (.error e) := fun e he => hn ⟨e, he⟩
      rcases ih with hnone | ⟨front, name, back, e, rfl, hfront, hname⟩
      · exact .inl (List.forall_mem_cons.2 ⟨hn, hnone⟩)
      · exact .inr ⟨n :: front, name, back, e, rfl, List.forall_mem_cons.2 ⟨hn, hfront⟩, hname⟩

theorem lastEntry_concat_other {name k : String} {v : Json}
    (hname : ∀ w, entry name ≠ some (.ok (k, w))) :
    LastEntry entry (names ++ [name]) k v ↔ LastEntry entry names k v := by
  have hmem {n : String} {w : Json} (hn : entry n = some (.ok (k, w))) :
      n ∈ names ++ [name] ↔ n ∈ names := by
    rw [List.mem_append, List.mem_singleton]
    refine or_iff_left ?_
    rintro rfl
    exact hname w hn
  constructor
  · rintro ⟨n, hin, hn, hlast⟩
    exact ⟨n, (hmem hn).1 hin, hn, fun n' hin' w hn' => hlast n' ((hmem hn').2 hin') w hn'⟩
  · rintro ⟨n, hin, hn, hlast⟩
    exact ⟨n, (hmem hn).2 hin, hn, fun n' hin' w hn' => hlast n' ((hmem hn').1 hin') w hn'⟩

theorem lastEntry_concat_self {name k : String} {v w : Json} (hle : ∀ n ∈ names, n ≤ name)
    (hname : entry name = some (.ok (k, w))) :
    LastEntry entry (names ++ [name]) k v ↔ w = v := by
  have hlast : name ∈ names ++ [name] := by simp
  have hle : ∀ n ∈ names ++ [name], n ≤ name := by
    intro n hn
    rcases List.mem_append.1 hn with hn | hn
    · exact hle n hn
    · exact List.mem_singleton.1 hn ▸ String.le_refl _
  constructor
  · rintro ⟨n, hin, hn, hmax⟩
    obtain rfl := String.le_antisymm (hle n hin) (hmax name hlast w hname)
    rw [hname] at hn
    cases hn
    rfl
  · rintro rfl
    exact ⟨name, hlast, hname, fun n hin _ _ => hle n hin⟩

/-- Each key is bound to the entry of its last name. -/
theorem foldlM_bindEntry_ok (hnames : names.Pairwise (· ≤ ·))
    (h : ∀ n ∈ names, ∀ e, entry n ≠ some (.error e)) :
    ∃ m, names.foldlM (fun m n => bindEntry m (entry n)) [] = .ok m ∧
      m.keys.Pairwise (· < ·) ∧ ∀ k v, m.find? k = some v ↔ LastEntry entry names k v := by
  -- The last name overrides what the others bind to its key, so the names are taken from the end.
  induction names using List.reverseRecOn with
  | nil => exact ⟨[], rfl, List.Pairwise.nil, fun k v => by simp [LastEntry, DataMap.find?]⟩
  | append_singleton names name ih =>
    obtain ⟨hsorted, -, hle⟩ := List.pairwise_append.1 hnames
    have hle : ∀ n ∈ names, n ≤ name := fun n hn => hle n hn name List.mem_cons_self
    obtain ⟨m, hm, hkeys, hfind⟩ := ih hsorted fun n hn => h n (List.mem_append_left _ hn)
    simp only [List.foldlM_append, hm, ok_bind, List.foldlM_cons, List.foldlM_nil, bind_pure]
    rcases hentry : entry name with _ | e | ⟨key, value⟩
    · refine ⟨m, rfl, hkeys, fun k v => ?_⟩
      rw [hfind, lastEntry_concat_other (by simp [hentry])]
    · exact absurd hentry (h name (by simp) e)
    · refine ⟨m.insert key value, rfl, DataMap.pairwise_keys_insert hkeys, fun k v => ?_⟩
      rw [DataMap.find?_insert]
      split
      · rename_i hk
        rw [lastEntry_concat_self hle (hk ▸ hentry), Option.some.injEq]
      · rename_i hk
        rw [hfind, lastEntry_concat_other]
        intro w hw
        rw [hentry] at hw
        cases hw
        exact hk rfl

end

namespace Loader

open Logged SheetTemplate.Path

variable {parts : List Part} {fs fs' : Files} {folder name stem : String} {here : List String}
  {part : Part} {loaded : DataMap} {v : Json} {e : SheetError}

/-- What a loader's entries are bound as: the value alone if a simple loader gave one entry, and
otherwise all of them as an object. -/
def StandsFor (loader : Loader) (loaded : DataMap) (v : Json) : Prop :=
  (loader.simple = true ∧ ∃ key, loaded = [(key, v)]) ∨
    ¬ (loader.simple = true ∧ loaded.length = 1) ∧ v = .obj loaded

theorem value_eq_iff {loader : Loader} : loader.value loaded = v ↔ StandsFor loader loaded v := by
  unfold value StandsFor
  cases loader.simple with
  | false => simp [eq_comm]
  | true =>
    rcases loaded with _ | ⟨p, _ | ⟨q, rest⟩⟩
    · simp [eq_comm]
    · obtain ⟨key, w⟩ := p
      simp [eq_comm]
    · simp [eq_comm]

/-- A regular file of the folder that a part accepts, with the name that is bound and the first part
that accepts it. -/
structure Accepted (parts : List Part) (fs : Files) (folder name stem : String) (part : Part) :
    Prop where
  regular : fs.Regular folder name
  stem_eq : stem? (join folder name).toList = some stem.toList
  first : parts.find? (·.accepts (join folder name)) = some part

def given (part : Part) (fs : Files) (folder name : String) : Except SheetError DataMap :=
  (part.loader.load fs (join folder name)).result

def Fails (parts : List Part) (fs : Files) (folder name : String) (e : SheetError) : Prop :=
  ∃ stem part, Accepted parts fs folder name stem part ∧ given part fs folder name = .error e

/-- The value is what the last of the files of this stem gives. -/
def Binds (parts : List Part) (fs : Files) (folder stem : String) (v : Json) : Prop :=
  ∃ name part loaded, Accepted parts fs folder name stem part ∧
    given part fs folder name = .ok loaded ∧ StandsFor part.loader loaded v ∧
      ∀ name' part', Accepted parts fs folder name' stem part' → name' ≤ name

def binding? (parts : List Part) (fs : Files) (path : String) :
    Option (Except SheetError (String × Json)) := do
  let stem ← stem? path.toList
  let part ← parts.find? (·.accepts path)
  pure ((part.loader.load fs path).result.map fun loaded =>
    (String.ofList stem, part.loader.value loaded))

theorem result_loadFile (m : DataMap) (path : String) :
    (loadFile parts fs m path).result = bindEntry m (binding? parts fs path) := by
  unfold loadFile binding?
  cases hstem : stem? path.toList with
  | none => rfl
  | some stem =>
    cases hfirst : parts.find? (·.accepts path) with
    | none => rfl
    | some part =>
      change _ = bindEntry m (some ((part.loader.load fs path).result.map _))
      dsimp only
      rw [result_bind fun loaded => (steady_note _ _ _).bind fun _ => steady_pure _]
      cases (part.loader.load fs path).result <;> rfl

def isFile (fs : Files) (folder name : String) : Bool :=
  match fs.get (join folder name) with
  | .ok (.file _) => true
  | _ => false

theorem isFile_iff {name : String} :
    isFile fs folder name = true ↔ ∃ contents, fs.get (join folder name) = .ok (.file contents) := by
  unfold isFile
  split <;> simp_all

/-- The regular files of a folder in the order of their names. -/
theorem exists_filesIn (hplace : fs.locate folder = .ok here)
    (hfolder : fs.node? here = some .folder) :
    ∃ names : List String, filesIn fs folder = .ok (names.map (join folder)) ∧
      names.Pairwise (· ≤ ·) ∧ ∀ name, name ∈ names ↔ fs.Regular folder name := by
  obtain ⟨listed, hlisted, hheld⟩ := Files.exists_names hplace hfolder
  have hsorted : (listed.mergeSort fun a b => a ≤ b).Pairwise (· ≤ ·) := by
    have htrans (a b c : String) (hab : decide (a ≤ b)) (hbc : decide (b ≤ c)) :
        decide (a ≤ c) :=
      decide_eq_true (String.le_trans (of_decide_eq_true hab) (of_decide_eq_true hbc))
    have htotal (a b : String) : decide (a ≤ b) || decide (b ≤ a) := by
      simpa using String.le_total a b
    simpa using List.pairwise_mergeSort htrans htotal listed
  refine ⟨(listed.mergeSort fun a b => a ≤ b).filter (isFile fs folder), ?_, hsorted.filter _,
    fun name => ?_⟩
  · rw [filesIn, hlisted, ok_bind, List.filter_map]
    rfl
  · rw [List.mem_filter, List.mem_mergeSort, hheld, isFile_iff, Files.regular_iff_get hplace hfolder]

theorem binding?_eq_some_iff {r : Except SheetError (String × Json)} :
    binding? parts fs (join folder name) = some r ↔
      ∃ stem part, stem? (join folder name).toList = some stem.toList ∧
        parts.find? (·.accepts (join folder name)) = some part ∧
          r = (given part fs folder name).map fun loaded => (stem, part.loader.value loaded) := by
  have hstem {s : List Char} {stem : String} : s = stem.toList ↔ stem = String.ofList s := by
    rw [← String.toList_inj, String.toList_ofList, eq_comm]
  simp only [binding?, given, Option.bind_eq_bind, Option.bind_eq_some_iff, Option.pure_def,
    Option.some.injEq]
  constructor
  · rintro ⟨s, hs, part, hpart, rfl⟩
    exact ⟨String.ofList s, part, by rw [hs, String.toList_ofList], hpart, rfl⟩
  · rintro ⟨stem, part, hs, hpart, rfl⟩
    exact ⟨_, hs, part, hpart, by rw [String.ofList_toList]⟩

theorem fails_iff :
    Fails parts fs folder name e ↔
      fs.Regular folder name ∧ binding? parts fs (join folder name) = some (.error e) := by
  rw [binding?_eq_some_iff]
  constructor
  · rintro ⟨stem, part, ⟨hregular, hstem, hfirst⟩, hfails⟩
    exact ⟨hregular, stem, part, hstem, hfirst, by rw [hfails]; rfl⟩
  · rintro ⟨hregular, stem, part, hstem, hfirst, hfails⟩
    refine ⟨stem, part, ⟨hregular, hstem, hfirst⟩, ?_⟩
    cases hgiven : given part fs folder name with
    | error e' =>
      rw [hgiven] at hfails
      exact congrArg Except.error (Except.error.inj hfails).symm
    | ok loaded =>
      rw [hgiven] at hfails
      cases hfails

theorem Fails.unique {e e' : SheetError} (h : Fails parts fs folder name e)
    (h' : Fails parts fs folder name e') : e = e' := by
  have hsame := (fails_iff.1 h).2.symm.trans (fails_iff.1 h').2
  exact Except.error.inj (Option.some.inj hsame)

/-- The entries of the last names are what is bound, if nothing fails. -/
theorem lastEntry_iff {names : List String} (hnames : ∀ name, name ∈ names ↔ fs.Regular folder name)
    (hnone : ∀ name ∈ names, ∀ e, binding? parts fs (join folder name) ≠ some (.error e)) :
    LastEntry (fun name => binding? parts fs (join folder name)) names stem v ↔
      Binds parts fs folder stem v := by
  have hloads {name stem : String} {part : Part} (h : Accepted parts fs folder name stem part) :
      ∃ loaded, given part fs folder name = .ok loaded := by
    cases hgiven : given part fs folder name with
    | error e =>
      have hfails : Fails parts fs folder name e := ⟨stem, part, h, hgiven⟩
      exact absurd (fails_iff.1 hfails).2 (hnone name ((hnames name).2 h.regular) e)
    | ok loaded => exact ⟨loaded, rfl⟩
  have hentry {name : String} (hregular : fs.Regular folder name) {stem : String} {v : Json} :
      binding? parts fs (join folder name) = some (.ok (stem, v)) ↔
        ∃ part loaded, Accepted parts fs folder name stem part ∧
          given part fs folder name = .ok loaded ∧ StandsFor part.loader loaded v := by
    rw [binding?_eq_some_iff]
    constructor
    · rintro ⟨stem', part, hstem, hfirst, hvalue⟩
      have haccepted : Accepted parts fs folder name stem' part := ⟨hregular, hstem, hfirst⟩
      obtain ⟨loaded, hloaded⟩ := hloads haccepted
      rw [hloaded] at hvalue
      cases hvalue
      exact ⟨part, loaded, haccepted, hloaded, value_eq_iff.1 rfl⟩
    · rintro ⟨part, loaded, ⟨-, hstem, hfirst⟩, hloaded, hv⟩
      exact ⟨stem, part, hstem, hfirst, by rw [hloaded, ← value_eq_iff.2 hv]; rfl⟩
  constructor
  · rintro ⟨name, hin, hname, hlast⟩
    obtain ⟨part, loaded, haccepted, hloaded, hv⟩ := (hentry ((hnames name).1 hin)).1 hname
    refine ⟨name, part, loaded, haccepted, hloaded, hv, fun name' part' h' => ?_⟩
    obtain ⟨loaded', hloaded'⟩ := hloads h'
    exact hlast name' ((hnames name').2 h'.regular) _
      ((hentry h'.regular).2 ⟨part', loaded', h', hloaded', value_eq_iff.1 rfl⟩)
  · rintro ⟨name, part, loaded, haccepted, hloaded, hv, hlast⟩
    refine ⟨name, (hnames name).2 haccepted.regular,
      (hentry haccepted.regular).2 ⟨part, loaded, haccepted, hloaded, hv⟩, fun name' hin w hw => ?_⟩
    obtain ⟨part', -, h', -, -⟩ := (hentry ((hnames name').1 hin)).1 hw
    exact hlast name' part' h'

theorem exists_result (hsteady : ∀ part ∈ parts, ∀ fs path, Steady (part.loader.load fs path))
    (hplace : fs.locate folder = .ok here) (hfolder : fs.node? here = some .folder) :
    ∃ names : List String, names.Pairwise (· ≤ ·) ∧
      (∀ name, name ∈ names ↔ fs.Regular folder name) ∧
      ((Loader.folder parts).load fs folder).result =
        names.foldlM (fun m name => bindEntry m (binding? parts fs (join folder name))) [] := by
  obtain ⟨names, hfiles, hsorted, hmem⟩ := exists_filesIn hplace hfolder
  have hget : fs.get folder = .ok .folder := by
    rw [Files.get, hplace, ok_bind, hfolder]
    rfl
  refine ⟨names, hsorted, hmem, ?_⟩
  have hload : (Loader.folder parts).load fs folder =
      (names.map (join folder)).foldlM (loadFile parts fs) [] := by
    unfold Loader.folder
    dsimp only
    rw [hget, hfiles]
  rw [hload, result_foldlM (steady_loadFile hsteady fs), List.foldlM_map]
  simp only [result_loadFile]

/-- Either no file fails and the last files are bound, or the first file that fails decides. -/
theorem load_cases (hsteady : ∀ part ∈ parts, ∀ fs path, Steady (part.loader.load fs path))
    (hplace : fs.locate folder = .ok here) (hfolder : fs.node? here = some .folder) :
    (∃ m, ((Loader.folder parts).load fs folder).result = .ok m ∧
        (∀ name e, ¬ Fails parts fs folder name e) ∧ m.keys.Pairwise (· < ·) ∧
          ∀ stem v, m.find? stem = some v ↔ Binds parts fs folder stem v) ∨
      ∃ name e, ((Loader.folder parts).load fs folder).result = .error e ∧
        Fails parts fs folder name e ∧
          ∀ name' e', Fails parts fs folder name' e' → name ≤ name' := by
  obtain ⟨names, hsorted, hmem, hresult⟩ := exists_result hsteady hplace hfolder
  rw [hresult]
  have hfails {name : String} {e : SheetError} : Fails parts fs folder name e ↔
      name ∈ names ∧ binding? parts fs (join folder name) = some (.error e) := by
    rw [fails_iff, hmem]
  rcases first_failure (fun name => binding? parts fs (join folder name)) names with
    hnone | ⟨front, name, back, e, rfl, hfront, hname⟩
  · obtain ⟨m, hm, hkeys, hfind⟩ := foldlM_bindEntry_ok hsorted hnone
    simp only [lastEntry_iff hmem hnone] at hfind
    exact .inl ⟨m, hm, fun name e h => hnone name (hfails.1 h).1 e (hfails.1 h).2, hkeys, hfind⟩
  · refine .inr ⟨name, e, foldlM_bindEntry_error hfront hname, hfails.2 ⟨by simp, hname⟩, ?_⟩
    intro name' e' h
    obtain ⟨hin', hentry⟩ := hfails.1 h
    rcases List.mem_append.1 hin' with hbefore | hafter
    · exact absurd hentry (hfront name' hbefore e')
    · rcases List.mem_cons.1 hafter with rfl | hafter
      · exact String.le_refl _
      · exact (List.pairwise_cons.1 (List.pairwise_append.1 hsorted).2.1).1 name' hafter

theorem load_iff (hsteady : ∀ part ∈ parts, ∀ fs path, Steady (part.loader.load fs path))
    (hplace : fs.locate folder = .ok here) (hfolder : fs.node? here = some .folder) :
    (∀ m, ((Loader.folder parts).load fs folder).result = .ok m ↔
        (∀ name e, ¬ Fails parts fs folder name e) ∧ m.keys.Pairwise (· < ·) ∧
          ∀ stem v, m.find? stem = some v ↔ Binds parts fs folder stem v) ∧
      ∀ e, ((Loader.folder parts).load fs folder).result = .error e ↔
        ∃ name, Fails parts fs folder name e ∧
          ∀ name' e', Fails parts fs folder name' e' → name ≤ name' := by
  rcases load_cases hsteady hplace hfolder with
    ⟨m, hm, hno, hkeys, hfind⟩ | ⟨name, e, he, hfirst, hle⟩
  · rw [hm]
    refine ⟨fun m' => ⟨?_, ?_⟩, fun e => ⟨?_, ?_⟩⟩
    · rintro ⟨⟩
      exact ⟨hno, hkeys, hfind⟩
    · rintro ⟨-, hkeys', hfind'⟩
      exact congrArg _
        (DataMap.ext_find? hkeys hkeys' fun k v => (hfind k v).trans (hfind' k v).symm)
    · rintro ⟨⟩
    · rintro ⟨name, h, -⟩
      exact absurd h (hno name e)
  · rw [he]
    refine ⟨fun m => ⟨?_, ?_⟩, fun e' => ⟨?_, ?_⟩⟩
    · rintro ⟨⟩
    · rintro ⟨hno, -⟩
      exact absurd hfirst (hno name e)
    · rintro ⟨⟩
      exact ⟨name, hfirst, hle⟩
    · rintro ⟨name', h', hle'⟩
      obtain rfl := String.le_antisymm (hle name' e' h') (hle' name e hfirst)
      exact congrArg Except.error (hfirst.unique h')

theorem accepted_iff (hplace : fs.locate folder = .ok here) (hfolder : fs.node? here = some .folder)
    (hname : IsName name) :
    Accepted parts fs folder name stem part ↔
      (∃ contents, fs.node? (here ++ [name]) = some (.file contents)) ∧ stem = Path.stem name ∧
        parts.find? (·.accepts (join folder name)) = some part := by
  have hstem : stem? (join folder name).toList = some stem.toList ↔ stem = Path.stem name := by
    rw [stem?_join (Files.ne_empty_of_locate hplace) hname, Option.some.injEq, String.toList_inj,
      eq_comm]
  rw [← Files.regular_iff hplace hfolder hname, ← hstem]
  exact ⟨fun ⟨hregular, hstem, hfirst⟩ => ⟨hregular, hstem, hfirst⟩,
    fun ⟨hregular, hstem, hfirst⟩ => ⟨hregular, hstem, hfirst⟩⟩

theorem accepted_congr (h : ∀ place, fs'.node? place = fs.node? place)
    (hplace : fs.locate folder = .ok here) (hfolder : fs.node? here = some .folder) :
    Accepted parts fs' folder name stem part ↔ Accepted parts fs folder name stem part := by
  constructor
  · rintro ⟨hregular, hstem, hfirst⟩
    exact ⟨(Files.regular_congr h hplace hfolder).1 hregular, hstem, hfirst⟩
  · rintro ⟨hregular, hstem, hfirst⟩
    exact ⟨(Files.regular_congr h hplace hfolder).2 hregular, hstem, hfirst⟩

/-- The result is a function of the accepted files and of what they give. -/
theorem result_congr (hsteady : ∀ part ∈ parts, ∀ fs path, Steady (part.loader.load fs path))
    {here' : List String} (hplace : fs.locate folder = .ok here)
    (hfolder : fs.node? here = some .folder) (hplace' : fs'.locate folder = .ok here')
    (hfolder' : fs'.node? here' = some .folder)
    (haccepted : ∀ name stem part,
      Accepted parts fs' folder name stem part ↔ Accepted parts fs folder name stem part)
    (hgiven : ∀ name stem part, Accepted parts fs folder name stem part →
      given part fs' folder name = given part fs folder name) :
    ((Loader.folder parts).load fs' folder).result =
      ((Loader.folder parts).load fs folder).result := by
  obtain ⟨hok, herror⟩ := load_iff hsteady hplace hfolder
  obtain ⟨hok', herror'⟩ := load_iff hsteady hplace' hfolder'
  have hfails (name : String) (e : SheetError) :
      Fails parts fs' folder name e ↔ Fails parts fs folder name e := by
    refine exists_congr fun stem => exists_congr fun part => ?_
    rw [haccepted]
    exact and_congr_right fun h => by rw [hgiven _ _ _ h]
  have hbinds (stem : String) (v : Json) :
      Binds parts fs' folder stem v ↔ Binds parts fs folder stem v := by
    refine exists_congr fun name => exists_congr fun part => exists_congr fun loaded => ?_
    simp only [haccepted]
    exact and_congr_right fun h => by rw [hgiven _ _ _ h]
  cases hresult : ((Loader.folder parts).load fs folder).result with
  | ok m =>
    rw [hok']
    simpa only [hfails, hbinds] using (hok m).1 hresult
  | error e =>
    rw [herror']
    simpa only [hfails] using (herror e).1 hresult

/-- What loading a folder gives, told by the files that some part accepts: which maps it can return
and when, which errors, and that nothing else has a say. -/
theorem folder_load (hsteady : ∀ part ∈ parts, ∀ fs path, Steady (part.loader.load fs path))
    (hplace : fs.locate folder = .ok here) (hfolder : fs.node? here = some .folder)
    (journal : Journal) :
    (∀ name stem part, IsName name → (Accepted parts fs folder name stem part ↔
      (∃ contents, fs.node? (here ++ [name]) = some (.file contents)) ∧ stem = Path.stem name ∧
        parts.find? (·.accepts (join folder name)) = some part)) ∧
      (∀ m, (outcome ((Loader.folder parts).load fs folder) journal).1 = .ok m ↔
        (∀ name e, ¬ Fails parts fs folder name e) ∧ m.keys.Pairwise (· < ·) ∧
          ∀ stem v, m.find? stem = some v ↔ Binds parts fs folder stem v) ∧
      (∀ e, (outcome ((Loader.folder parts).load fs folder) journal).1 = .error e ↔
        ∃ name, Fails parts fs folder name e ∧
          ∀ name' e', Fails parts fs folder name' e' → name ≤ name') ∧
      (∀ fs' here' journal', fs'.locate folder = .ok here' → fs'.node? here' = some .folder →
        (∀ name stem part,
          Accepted parts fs' folder name stem part ↔ Accepted parts fs folder name stem part) →
        (∀ name stem part, Accepted parts fs folder name stem part →
          given part fs' folder name = given part fs folder name) →
        (outcome ((Loader.folder parts).load fs' folder) journal').1 =
          (outcome ((Loader.folder parts).load fs folder) journal).1) ∧
      ∀ fs' journal', (∀ place, fs'.node? place = fs.node? place) →
        (∀ part ∈ parts, ∀ path, part.loader.load fs' path = part.loader.load fs path) →
        (outcome ((Loader.folder parts).load fs' folder) journal').1 =
          (outcome ((Loader.folder parts).load fs folder) journal).1 := by
  have hresult (fs : Files) (journal : Journal) :
      (outcome ((Loader.folder parts).load fs folder) journal).1 =
        ((Loader.folder parts).load fs folder).result := steady_folder hsteady fs folder journal
  simp only [hresult]
  obtain ⟨hok, herror⟩ := load_iff hsteady hplace hfolder
  refine ⟨fun name stem part => accepted_iff hplace hfolder, hok, herror, ?_, ?_⟩
  · intro fs' here' _ hplace' hfolder' haccepted hgiven
    exact result_congr hsteady hplace hfolder hplace' hfolder' haccepted hgiven
  · intro fs' _ hnodes hload
    have hplace' : fs'.locate folder = .ok here := by rw [Files.locate_congr hnodes, hplace]
    have hfolder' : fs'.node? here = some .folder := by rw [hnodes, hfolder]
    refine result_congr hsteady hplace hfolder hplace' hfolder'
      (fun _ _ _ => accepted_congr hnodes hplace hfolder) fun name stem part h => ?_
    rw [given, given, hload part (List.mem_of_find?_eq_some h.first)]

/-- These loaders only read the file that they are given. -/
theorem load_defaultParts (h : ∀ place, fs'.node? place = fs.node? place) :
    ∀ part ∈ defaultParts, ∀ path, part.loader.load fs' path = part.loader.load fs path := by
  simp only [defaultParts, List.forall_mem_cons, List.not_mem_nil, false_implies, implies_true,
    and_true, xlsx, csv, json, Files.read_congr h]

def dataFiles : Files :=
  { nodes := [(["data"], .folder), (["data", "b.csv"], .file "1".toUTF8),
      (["data", "b.json"], .file "[]".toUTF8), (["data", "n.txt"], .file "1".toUTF8),
      (["data", "z.json"], .folder)] }

theorem filesIn_dataFiles :
    filesIn dataFiles "data" = .ok ["data/b.csv", "data/b.json", "data/n.txt"] := by
  have hnames : dataFiles.names "data" = .ok ["b.csv", "b.json", "n.txt", "z.json"] := by cbv
  have hsorted : (["b.csv", "b.json", "n.txt", "z.json"].mergeSort fun a b => a ≤ b) =
      ["b.csv", "b.json", "n.txt", "z.json"] := List.mergeSort_of_pairwise (by decide)
  rw [filesIn, hnames, ok_bind, hsorted]
  cbv

theorem folder_load_dataFiles :
    (outcome ((Loader.folder defaultParts).load dataFiles "data") #[]).1 = .ok [("b", .arr [])] ∧
      Binds defaultParts dataFiles "data" "b" (.arr []) ∧
      ¬ Accepted defaultParts dataFiles "data" "z.json" "z" ⟨json, (hasExtension · ["json"])⟩ ∧
      (outcome ((Loader.folder defaultParts).load ⟨dataFiles.nodes.reverse⟩ "data") #[]).1 =
        .ok [("b", .arr [])] := by
  have hplace : dataFiles.locate "data" = .ok ["data"] := by cbv
  obtain ⟨haccepted, hok, -, -, horder⟩ :=
    folder_load steady_defaultParts hplace rfl #[]
  have hloaded : (outcome ((Loader.folder defaultParts).load dataFiles "data") #[]).1 =
      .ok [("b", .arr [])] := by
    have hget : dataFiles.get "data" = .ok .folder := by cbv
    simp only [Loader.folder, hget, filesIn_dataFiles]
    cbv
  have hnodup : (dataFiles.nodes.map (·.1)).Nodup := by decide
  have hnodes : ∀ place, Files.node? ⟨dataFiles.nodes.reverse⟩ place = dataFiles.node? place :=
    Files.node?_eq_of_perm hnodup (List.reverse_perm _)
  refine ⟨hloaded, ?_, ?_, (horder _ #[] hnodes (load_defaultParts hnodes)).trans hloaded⟩
  · exact (((hok _).1 hloaded).2.2 "b" (.arr [])).1 rfl
  · rw [haccepted "z.json" _ _ ⟨by decide, by decide⟩]
    rintro ⟨⟨contents, hcontents⟩, -⟩
    cases hcontents

end Loader

end SheetTemplate
