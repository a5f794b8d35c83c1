import SheetTemplate.Files.Tree
import SheetTemplate.Proofs.Failing
import SheetTemplate.Proofs.Lookups

namespace SheetTemplate

namespace Path

variable {folder name : String}

structure IsName (name : String) : Prop where
  not_mem : name ∉ ["", ".", ".."]
  no_slash : '/' ∉ name.toList

def stem (name : String) : String :=
  String.ofList (((splitDot? name.toList).map (·.1)).getD name.toList)

theorem splitSlash_ne_nil (s : List Char) : splitSlash s ≠ [] := by
  cases s with
  | nil => simp [splitSlash]
  | cons c s =>
    rw [splitSlash]
    split
    · simp
    · split <;> simp

theorem splitSlash_append (s t : List Char) :
    splitSlash (s ++ '/' :: t) = splitSlash s ++ splitSlash t := by
  induction s with
  | nil => simp [splitSlash]
  | cons c s ih =>
    by_cases hc : c = '/'
    · simp [splitSlash, hc, ih]
    · obtain ⟨run, runs, hs⟩ := List.exists_cons_of_ne_nil (splitSlash_ne_nil s)
      simp [splitSlash, hc, ih, hs]

theorem splitSlash_of_not_mem {s : List Char} (h : '/' ∉ s) : splitSlash s = [s] := by
  induction s with
  | nil => rfl
  | cons c s ih =>
    rw [List.mem_cons, not_or] at h
    rw [splitSlash, if_neg (Ne.symm h.1), ih h.2]

/-- The path of a name in a folder goes on from the runs of the folder's path, less an empty run at
the end. -/
theorem splitSlash_join (hfolder : folder ≠ "") (hname : '/' ∉ name.toList) :
    ∃ front, (splitSlash folder.toList = front ∨ splitSlash folder.toList = front ++ [[]]) ∧
      splitSlash (join folder name).toList = front ++ [name.toList] := by
  have hempty : folder.isEmpty = false := by simpa using hfolder
  cases hslash : folder.endsWith "/" with
  | true =>
    have hjoin : join folder name = folder ++ name := by simp [join, hslash]
    rw [String.endsWith_eq_endsWith_toSlice, String.Slice.endsWith_string_iff,
      String.copy_toSlice] at hslash
    obtain ⟨s, hs⟩ := hslash
    have hslash : "/".toList = ['/'] := rfl
    refine ⟨splitSlash s, .inr ?_, ?_⟩
    · rw [← hs, hslash, splitSlash_append]
      rfl
    · rw [hjoin, String.toList_append, ← hs, hslash, List.append_assoc, List.singleton_append,
        splitSlash_append, splitSlash_of_not_mem hname]
  | false =>
    have hjoin : (join folder name).toList = folder.toList ++ '/' :: name.toList := by
      simp [join, hslash, hempty]
    exact ⟨_, .inl rfl, by rw [hjoin, splitSlash_append, splitSlash_of_not_mem hname]⟩

theorem head?_join (hfolder : folder ≠ "") :
    (join folder name).toList.head? = folder.toList.head? := by
  have hne : folder.toList ≠ [] := by simpa using hfolder
  obtain ⟨c, s, hs⟩ := List.exists_cons_of_ne_nil hne
  unfold join
  split <;> simp [hs]

theorem stem?_join (hfolder : folder ≠ "") (hname : IsName name) :
    stem? (join folder name).toList = some (stem name).toList := by
  obtain ⟨hnot, hslash⟩ := hname
  simp only [List.mem_cons, List.not_mem_nil, or_false, not_or] at hnot
  obtain ⟨hempty, hdot, hdots⟩ := hnot
  have hproper : isProper name.toList = true := by
    have hdot : name.toList ≠ ['.'] := fun h => hdot (String.toList_inj.1 h)
    simp [isProper, hempty, hdot]
  have hfile : fileName? (join folder name).toList = some name.toList := by
    obtain ⟨front, -, hruns⟩ := splitSlash_join hfolder hslash
    have hdots : name.toList ≠ ['.', '.'] := fun h => hdots (String.toList_inj.1 h)
    simp [fileName?, hruns, List.filter_append, hproper, hdots]
  rw [stem?, hfile, stem, String.toList_ofList]
  rfl

theorem not_mem_of_mem_splitSlash {path run : List Char} (h : run ∈ splitSlash path) :
    '/' ∉ run := by
  induction path generalizing run with
  | nil =>
    obtain rfl := List.mem_singleton.1 h
    exact List.not_mem_nil
  | cons c path ih =>
    obtain ⟨first, runs, hpath⟩ := List.exists_cons_of_ne_nil (splitSlash_ne_nil path)
    rw [splitSlash, hpath] at h
    rw [hpath] at ih
    split at h
    · rcases List.mem_cons.1 h with rfl | h
      · exact List.not_mem_nil
      · exact ih h
    · rename_i hc
      rcases List.mem_cons.1 h with rfl | h
      · exact List.not_mem_cons_of_ne_of_not_mem (Ne.symm hc) (ih List.mem_cons_self)
      · exact ih (List.mem_cons_of_mem _ h)

theorem not_mem_of_stem? {path stem : List Char} (h : stem? path = some stem) : '/' ∉ stem := by
  obtain ⟨name, hname, h⟩ := Option.bind_eq_some_iff.1 h
  have hslash : '/' ∉ name := by
    unfold fileName? at hname
    split at hname
    · rename_i last hlast
      obtain ⟨-, hname⟩ := Option.ite_none_left_eq_some.1 hname
      obtain rfl := Option.some.inj hname
      exact not_mem_of_mem_splitSlash (List.mem_filter.1 (List.mem_of_getLast? hlast)).1
    · cases hname
  obtain rfl := Option.some.inj h
  unfold splitDot?
  intro hmem
  dsimp only at hmem
  split at hmem
  · exact hslash hmem
  · refine hslash ?_
    simp only [Option.map_some, Option.getD_some, List.mem_reverse] at hmem
    exact List.mem_reverse.1 ((List.dropWhile_sublist _).mem ((List.drop_sublist _ _).mem hmem))

end Path

namespace Files

open SheetTemplate.Path

variable {fs fs' : Files} {folder name : String} {here : List String} {contents : ByteArray}

theorem origin_join (hfolder : folder ≠ "") : origin (join folder name) = origin folder := by
  have hstarts (path : String) : path.startsWith "/" = true ↔ path.toList.head? = some '/' := by
    rw [String.startsWith_string_iff]
    change ['/'] <+: path.toList ↔ _
    cases path.toList <;> simp [List.cons_prefix_cons, eq_comm]
  have hsame : (join folder name).startsWith "/" = folder.startsWith "/" := by
    rw [Bool.eq_iff_iff, hstarts, hstarts, head?_join hfolder]
  rw [origin, origin, hsame]

theorem step_name (hfolder : fs.node? here = some .folder) (hname : IsName name) :
    fs.step here name = .ok (here ++ [name]) := by
  have hnot := hname.not_mem
  simp only [List.mem_cons, List.not_mem_nil, or_false, not_or] at hnot
  simp [step, hfolder, hnot]

theorem ne_empty_of_locate (hplace : fs.locate folder = .ok here) : folder ≠ "" := by
  rintro rfl
  cases hplace

/-- The path of a name in a folder leads to the place of the name in the folder. -/
theorem locate_join (hplace : fs.locate folder = .ok here) (hfolder : fs.node? here = some .folder)
    (hname : IsName name) : fs.locate (join folder name) = .ok (here ++ [name]) := by
  have hne := ne_empty_of_locate hplace
  have hempty (path : String) (h : path ≠ "") : ¬ path.isEmpty = true := by simpa using h
  have hjoin : join folder name ≠ "" := by
    intro h
    have hhead : (join folder name).toList.head? = folder.toList.head? := head?_join hne
    rw [h] at hhead
    exact hne (by simpa using hhead.symm)
  obtain ⟨front, hruns, hruns'⟩ := splitSlash_join hne hname.no_slash
  rw [locate, if_neg (hempty _ hne)] at hplace
  have hfront : (front.map String.ofList).foldlM fs.step (origin folder) = .ok here := by
    rcases hruns with hruns | hruns
    · rwa [runs, hruns] at hplace
    · rw [runs, hruns, List.map_append, List.foldlM_append, bind_eq_ok_iff] at hplace
      obtain ⟨place, hplace, hlast⟩ := hplace
      rw [List.map_singleton, List.foldlM_cons, bind_eq_ok_iff] at hlast
      obtain ⟨place', hstep, hlast⟩ := hlast
      obtain rfl := Except.ok.inj hlast
      unfold step at hstep
      split at hstep
      · cases hstep
      · cases hstep
      · rw [if_pos (.inl rfl)] at hstep
        rw [hplace, Except.ok.inj hstep]
  rw [locate, if_neg (hempty _ hjoin), origin_join hne, runs, hruns', List.map_append,
    List.foldlM_append, hfront, ok_bind, List.map_singleton, String.ofList_toList, List.foldlM_cons,
    step_name hfolder hname]
  rfl

/-- What stands at the path of a name in a folder is what the folder holds under the name. -/
theorem get_join_eq_ok_iff {n : FileNode} (hplace : fs.locate folder = .ok here)
    (hfolder : fs.node? here = some .folder) (hname : IsName name) :
    fs.get (join folder name) = .ok n ↔ fs.node? (here ++ [name]) = some n := by
  rw [get, locate_join hplace hfolder hname, ok_bind]
  cases fs.node? (here ++ [name]) with
  | none => simp [throw_ne_ok]
  | some m =>
    exact ⟨fun h => congrArg some (Except.ok.inj h),
      fun h => congrArg Except.ok (Option.some.inj h)⟩

theorem node?_isSome_iff {place : List String} (hne : place ≠ []) :
    (fs.node? place).isSome ↔ ∃ n, (place, n) ∈ fs.nodes := by
  rw [node?, if_neg (by simpa using hne), Option.isSome_iff_ne_none, Ne, List.lookup_eq_none_iff]
  simp

/-- A folder lists the names under which it holds something. -/
theorem exists_names (hplace : fs.locate folder = .ok here)
    (hfolder : fs.node? here = some .folder) :
    ∃ names, fs.names folder = .ok names ∧
      ∀ name, name ∈ names ↔ (fs.node? (here ++ [name])).isSome := by
  refine ⟨_, by rw [names, hplace, ok_bind, hfolder]; rfl, fun name => ?_⟩
  rw [List.mem_eraseDups, List.mem_filterMap, node?_isSome_iff (by simp)]
  constructor
  · rintro ⟨⟨place, n⟩, hmem, hlast⟩
    obtain ⟨⟨hlength, hbefore⟩, hlast⟩ := Option.ite_none_right_eq_some.1 hlast
    obtain ⟨rest, rfl⟩ := List.isPrefixOf_iff_prefix.1 hbefore
    obtain ⟨last, rfl⟩ := List.length_eq_one_iff.1 (by simpa using hlength)
    obtain rfl : last = name := by simpa using hlast
    exact ⟨n, hmem⟩
  · rintro ⟨n, hmem⟩
    exact ⟨(here ++ [name], n), hmem, by simp [List.isPrefixOf_iff_prefix]⟩

structure Regular (fs : Files) (folder name : String) : Prop where
  listed : ∃ names, fs.names folder = .ok names ∧ name ∈ names
  isFile : ∃ contents, fs.get (join folder name) = .ok (.file contents)

theorem regular_iff_get (hplace : fs.locate folder = .ok here)
    (hfolder : fs.node? here = some .folder) :
    fs.Regular folder name ↔ (fs.node? (here ++ [name])).isSome ∧
      ∃ contents, fs.get (join folder name) = .ok (.file contents) := by
  obtain ⟨names, hnames, hmem⟩ := exists_names hplace hfolder
  constructor
  · rintro ⟨⟨listed, hlisted, hin⟩, hfile⟩
    obtain rfl := Except.ok.inj (hnames.symm.trans hlisted)
    exact ⟨(hmem name).1 hin, hfile⟩
  · rintro ⟨hheld, hfile⟩
    exact ⟨⟨names, hnames, (hmem name).2 hheld⟩, hfile⟩

theorem regular_iff (hplace : fs.locate folder = .ok here) (hfolder : fs.node? here = some .folder)
    (hname : IsName name) :
    fs.Regular folder name ↔ ∃ contents, fs.node? (here ++ [name]) = some (.file contents) := by
  simp only [regular_iff_get hplace hfolder, get_join_eq_ok_iff hplace hfolder hname]
  refine and_iff_right_of_imp ?_
  rintro ⟨contents, hfile⟩
  rw [hfile]
  rfl

theorem node?_eq_of_perm (h : (fs.nodes.map (·.1)).Nodup) (hperm : fs'.nodes.Perm fs.nodes)
    (place : List String) : fs'.node? place = fs.node? place := by
  have hreverse : fs.nodes.reverse.Perm fs'.nodes.reverse :=
    (List.reverse_perm _).trans (hperm.symm.trans (List.reverse_perm _).symm)
  have hnodup : (fs.nodes.reverse.map (·.1)).Nodup :=
    ((List.reverse_perm fs.nodes).map _).nodup_iff.2 h
  rw [node?, node?, lookup_eq_of_perm hnodup hreverse]

theorem locate_congr (h : ∀ place, fs'.node? place = fs.node? place) :
    fs'.locate = fs.locate := by
  have hstep : fs'.step = fs.step := by
    funext here run
    rw [step, step, h]
  funext path
  rw [locate, locate, hstep]

theorem get_congr (h : ∀ place, fs'.node? place = fs.node? place) : fs'.get = fs.get := by
  funext path
  simp only [get, locate_congr h, h]

theorem read_congr (h : ∀ place, fs'.node? place = fs.node? place) : fs'.read = fs.read := by
  funext path
  rw [read, read, get_congr h]

theorem regular_congr (h : ∀ place, fs'.node? place = fs.node? place)
    (hplace : fs.locate folder = .ok here) (hfolder : fs.node? here = some .folder) :
    fs'.Regular folder name ↔ fs.Regular folder name := by
  have hplace' : fs'.locate folder = .ok here := by rw [locate_congr h, hplace]
  have hfolder' : fs'.node? here = some .folder := by rw [h, hfolder]
  rw [regular_iff_get hplace hfolder, regular_iff_get hplace' hfolder', h, get_congr h]

end Files

end SheetTemplate
