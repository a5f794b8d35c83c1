import Mathlib.Data.List.TakeWhile
import SheetTemplate.CommandLine.Job
import SheetTemplate.Proofs.FolderContents

namespace SheetTemplate

namespace Path

variable {path front name tail stem suffix : List Char}

def names (path : List Char) : List (List Char) := (splitSlash path).filter isProper

def EndsOpen (path : List Char) : Prop := path = [] ∨ ∃ front, path = front ++ ['/']

inductive Idle : List Char → Prop
  | nil : Idle []
  | slash {tail : List Char} : Idle tail → Idle ('/' :: tail)
  | dot {tail : List Char} : Idle tail → Idle ('/' :: '.' :: tail)

/-- The path has the name and nothing behind it that leads further. -/
structure Written (path front name tail : List Char) : Prop where
  path_eq : path = front ++ (name ++ tail)
  opens : EndsOpen front
  no_slash : '/' ∉ name
  idle : Idle tail

/-- The last name of the path has the extension behind its last dot, and something before that. -/
def Carries (path suffix : List Char) : Prop :=
  ∃ front stem tail, stem ≠ [] ∧ '.' ∉ suffix ∧ Written path front (stem ++ '.' :: suffix) tail

structure IsExtension (suffix : List Char) : Prop where
  ne_nil : suffix ≠ []
  no_slash : '/' ∉ suffix
  no_dot : '.' ∉ suffix

theorem not_isProper_iff : ¬ isProper name ↔ name = [] ∨ name = ['.'] := by
  simp [isProper, Decidable.or_iff_not_imp_left]

theorem names_of_not_mem (h : '/' ∉ name) : names name = if isProper name then [name] else [] := by
  rw [names, splitSlash_of_not_mem h, List.filter_cons, List.filter_nil]

theorem names_append_slash (s t : List Char) : names (s ++ '/' :: t) = names s ++ names t := by
  rw [names, splitSlash_append, List.filter_append]
  rfl

theorem names_open (h : EndsOpen front) (s : List Char) :
    names (front ++ s) = names front ++ names s := by
  rcases h with rfl | ⟨front, rfl⟩
  · rfl
  · have hnil : names [] = [] := rfl
    rw [List.append_assoc, List.singleton_append, names_append_slash, names_append_slash, hnil,
      List.append_nil]

theorem names_idle (h : Idle tail) (s : List Char) : names (s ++ tail) = names s := by
  induction h generalizing s with
  | nil => rw [List.append_nil]
  | slash _ ih =>
    have hrest := ih []
    rw [names_append_slash]
    simpa [names, splitSlash, isProper] using hrest
  | dot _ ih =>
    have hrest := ih ['.']
    rw [names_append_slash]
    simpa [names, splitSlash, isProper] using hrest

theorem Written.names (h : Written path front name tail) :
    names path = names front ++ if isProper name then [name] else [] := by
  rw [h.path_eq, names_open h.opens, names_idle h.idle, names_of_not_mem h.no_slash]

/-- A path whose last name is no proper one has no name before it either. -/
theorem exists_written (path : List Char) :
    ∃ front name tail, Written path front name tail ∧ (isProper name ∨ front = []) := by
  induction path with
  | nil => exact ⟨[], [], [], ⟨rfl, .inl rfl, List.not_mem_nil, .nil⟩, .inr rfl⟩
  | cons c path ih =>
    obtain ⟨front, name, tail, ⟨rfl, hopens, hslash, hidle⟩, hname⟩ := ih
    rcases hopens with rfl | ⟨front, rfl⟩
    · -- Nothing stands before the name, so that it grows by any character but a slash.
      by_cases hc : c = '/'
      · subst hc
        by_cases hproper : isProper name
        · exact ⟨['/'], name, tail, ⟨rfl, .inr ⟨[], rfl⟩, hslash, hidle⟩, .inl hproper⟩
        · have htail : Idle ('/' :: (name ++ tail)) := by
            rcases not_isProper_iff.1 hproper with rfl | rfl
            · exact .slash hidle
            · exact .dot hidle
          exact ⟨[], [], _, ⟨rfl, .inl rfl, List.not_mem_nil, htail⟩, .inr rfl⟩
      · refine ⟨[], c :: name, tail, ⟨rfl, .inl rfl, ?_, hidle⟩, .inr rfl⟩
        exact List.not_mem_cons_of_ne_of_not_mem (Ne.symm hc) hslash
    · refine ⟨c :: (front ++ ['/']), name, tail, ⟨rfl, .inr ⟨c :: front, rfl⟩, hslash, hidle⟩, ?_⟩
      exact hname.imp_right fun h => absurd h (by simp)

theorem fileName?_eq_some_iff_getLast? :
    fileName? path = some name ↔ (names path).getLast? = some name ∧ name ≠ ['.', '.'] := by
  rw [fileName?, ← names]
  cases hlast : (names path).getLast? with
  | none => simp
  | some last =>
    by_cases hdots : last = ['.', '.']
    · subst hdots
      simp +contextual [eq_comm]
    · simp only [if_neg hdots, Option.some.injEq, iff_self_and]
      rintro rfl
      exact hdots

theorem fileName?_eq_some_iff :
    fileName? path = some name ↔
      isProper name ∧ name ≠ ['.', '.'] ∧ ∃ front tail, Written path front name tail := by
  rw [fileName?_eq_some_iff_getLast?]
  constructor
  · rintro ⟨hlast, hdots⟩
    obtain ⟨front, last, tail, hpath, hfront⟩ := exists_written path
    by_cases hproper : isProper last
    · rw [hpath.names, if_pos hproper, List.getLast?_concat] at hlast
      obtain rfl := Option.some.inj hlast
      exact ⟨hproper, hdots, front, tail, hpath⟩
    · obtain rfl := hfront.resolve_left hproper
      rw [hpath.names, if_neg hproper] at hlast
      cases hlast
  · rintro ⟨hproper, hdots, front, tail, hpath⟩
    rw [hpath.names, if_pos hproper, List.getLast?_concat]
    exact ⟨rfl, hdots⟩

theorem exists_last {c : Char} {s : List Char} (h : c ∈ s) :
    ∃ front back, s = front ++ c :: back ∧ c ∉ back := by
  obtain ⟨back, front, hsplit, hback⟩ := List.eq_append_cons_of_mem (List.mem_reverse.2 h)
  refine ⟨front.reverse, back.reverse, ?_, mt List.mem_reverse.1 hback⟩
  rw [← List.reverse_reverse s, hsplit]
  simp

theorem ne_dot_of_mem_reverse (hdot : '.' ∉ name) : ∀ c ∈ name.reverse, (c != '.') = true := by
  intro c hc
  rw [bne_iff_ne]
  rintro rfl
  exact hdot (List.mem_reverse.1 hc)

theorem splitDot?_append (hdot : '.' ∉ suffix) :
    splitDot? (stem ++ '.' :: suffix) = if stem = [] then none else some (stem, suffix) := by
  have hsuffix := ne_dot_of_mem_reverse hdot
  have hreverse : (stem ++ '.' :: suffix).reverse = suffix.reverse ++ '.' :: stem.reverse := by
    simp
  rw [splitDot?, hreverse, List.takeWhile_append_of_pos hsuffix,
    List.dropWhile_append_of_pos hsuffix]
  by_cases hstem : stem = []
  · simp [hstem]
  · have hlength : suffix.length ≠ stem.length + (suffix.length + 1) := by omega
    simp [hstem, hlength]

theorem splitDot?_of_not_mem (hdot : '.' ∉ name) : splitDot? name = none := by
  have htake : name.reverse.takeWhile (· != '.') = name.reverse :=
    List.takeWhile_eq_self_iff.2 (ne_dot_of_mem_reverse hdot)
  simp [splitDot?, htake]

theorem splitDot?_eq_some_iff :
    splitDot? name = some (stem, suffix) ↔
      name = stem ++ '.' :: suffix ∧ '.' ∉ suffix ∧ stem ≠ [] := by
  constructor
  · intro h
    by_cases hdot : '.' ∈ name
    · obtain ⟨front, back, rfl, hback⟩ := exists_last hdot
      rw [splitDot?_append hback] at h
      obtain ⟨hstem, h⟩ := Option.ite_none_left_eq_some.1 h
      obtain ⟨rfl, rfl⟩ := Prod.mk.inj (Option.some.inj h)
      exact ⟨rfl, hback, hstem⟩
    · rw [splitDot?_of_not_mem hdot] at h
      cases h
  · rintro ⟨rfl, hdot, hstem⟩
    rw [splitDot?_append hdot, if_neg hstem]

theorem extension?_eq_some_iff (hsuffix : suffix ≠ []) :
    extension? path = some suffix ↔ Carries path suffix := by
  have hread : extension? path = some suffix ↔
      ∃ name stem, fileName? path = some name ∧ splitDot? name = some (stem, suffix) := by
    simp [extension?, Option.bind_eq_some_iff]
  rw [hread]
  constructor
  · rintro ⟨name, stem, hname, hsplit⟩
    obtain ⟨-, -, front, tail, hpath⟩ := fileName?_eq_some_iff.1 hname
    obtain ⟨rfl, hdot, hstem⟩ := splitDot?_eq_some_iff.1 hsplit
    exact ⟨front, stem, tail, hstem, hdot, hpath⟩
  · rintro ⟨front, stem, tail, hstem, hdot, hpath⟩
    obtain ⟨c, stem, rfl⟩ := List.exists_cons_of_ne_nil hstem
    obtain ⟨d, suffix, rfl⟩ := List.exists_cons_of_ne_nil hsuffix
    have hproper : isProper (c :: stem ++ '.' :: d :: suffix) := by simp [isProper]
    have hdots : c :: stem ++ '.' :: d :: suffix ≠ ['.', '.'] := by
      intro h
      have hlength := congrArg List.length h
      simp at hlength
      omega
    exact ⟨_, _, fileName?_eq_some_iff.2 ⟨hproper, hdots, front, tail, hpath⟩,
      splitDot?_eq_some_iff.2 ⟨rfl, hdot, hstem⟩⟩

theorem hasExtension_iff {s : String} {extensions : List String} :
    hasExtension s extensions ↔ ∃ suffix, extension? s.toList = some suffix ∧
      ∃ e ∈ extensions, Text.equalsIgnoringCase (String.ofList suffix) e := by
  rw [hasExtension]
  cases extension? s.toList with
  | none => simp
  | some suffix => simp

theorem exists_last_run (path : List Char) : ∃ front name, Written path front name [] := by
  by_cases hslash : '/' ∈ path
  · obtain ⟨front, name, rfl, hname⟩ := exists_last hslash
    exact ⟨front ++ ['/'], name, by simp, .inr ⟨front, rfl⟩, hname, .nil⟩
  · exact ⟨[], path, by simp, .inl rfl, hslash, .nil⟩

theorem Written.endsOpen_iff (h : Written path front name []) : EndsOpen path ↔ name = [] := by
  obtain ⟨rfl, hopens, hslash, -⟩ := h
  rw [List.append_nil]
  constructor
  · rintro (h | ⟨s, h⟩)
    · exact (List.append_eq_nil_iff.1 h).2
    · rcases List.eq_nil_or_concat name with rfl | ⟨init, c, rfl⟩
      · rfl
      · have hlast := congrArg List.getLast? h
        rw [List.concat_eq_append, ← List.append_assoc, List.getLast?_concat, List.getLast?_concat]
          at hlast
        obtain rfl := Option.some.inj hlast
        simp at hslash
  · rintro rfl
    rwa [List.append_nil]

section

variable (hsuffix : IsExtension suffix)

include hsuffix

theorem Written.added (h : Written path front name []) :
    Written (path ++ '.' :: suffix) front (name ++ '.' :: suffix) [] := by
  obtain ⟨rfl, hopens, hname, hidle⟩ := h
  refine ⟨by simp, hopens, ?_, hidle⟩
  simp [hname, hsuffix.no_slash]

theorem extension?_added (hopen : ¬ EndsOpen path) :
    extension? (path ++ '.' :: suffix) = some suffix := by
  obtain ⟨front, name, hpath⟩ := exists_last_run path
  have hname : name ≠ [] := mt hpath.endsOpen_iff.2 hopen
  apply (extension?_eq_some_iff hsuffix.ne_nil).2
  exact ⟨front, name, [], hname, hsuffix.no_dot, hpath.added hsuffix⟩

/-- Without a name that it could be added to, the extension is the name. -/
theorem fileName?_added (hopen : EndsOpen path) :
    fileName? (path ++ '.' :: suffix) = some ('.' :: suffix) := by
  obtain ⟨front, name, hpath⟩ := exists_last_run path
  have hadded := hpath.added hsuffix
  rw [hpath.endsOpen_iff.1 hopen, List.nil_append] at hadded
  have hproper : isProper ('.' :: suffix) := by simp [isProper, hsuffix.ne_nil]
  have hdots : '.' :: suffix ≠ ['.', '.'] := by
    intro h
    apply hsuffix.no_dot
    rw [(List.cons.inj h).2]
    exact List.mem_cons_self
  exact fileName?_eq_some_iff.2 ⟨hproper, hdots, front, [], hadded⟩

theorem extension?_of_hidden (h : fileName? path = some ('.' :: suffix)) :
    extension? path = none := by
  have hsplit : splitDot? ([] ++ '.' :: suffix) = none := by
    rw [splitDot?_append hsuffix.no_dot, if_pos rfl]
  rw [List.nil_append] at hsplit
  simp [extension?, h, hsplit]

theorem names_added_ne (path : List Char) : names (path ++ '.' :: suffix) ≠ names path := by
  obtain ⟨front, name, hpath⟩ := exists_last_run path
  have hproper : isProper (name ++ '.' :: suffix) := by
    simp [isProper, List.append_eq_singleton_iff, hsuffix.ne_nil]
  rw [(hpath.added hsuffix).names, hpath.names, if_pos hproper]
  intro h
  have hlast := List.append_cancel_left h
  by_cases hname : isProper name
  · rw [if_pos hname] at hlast
    simpa using (List.cons.inj hlast).1
  · rw [if_neg hname] at hlast
    cases hlast

end

end Path

namespace CommandLine.Job

open SheetTemplate.Path

variable {path : String}

def xlsx : List Char := ['x', 'l', 's', 'x']

theorem isExtension_xlsx : IsExtension xlsx := ⟨by decide, by decide, by decide⟩

theorem isWorkbookPath_iff :
    isWorkbookPath path ↔
      ∃ suffix, Carries path.toList suffix ∧ suffix.map Char.toLower = xlsx := by
  have hcase (suffix : List Char) : Text.equalsIgnoringCase (String.ofList suffix) "xlsx" ↔
      suffix.map Char.toLower = xlsx := by
    rw [Text.equalsIgnoringCase, String.toList_ofList, beq_iff_eq]
    rfl
  rw [isWorkbookPath, hasExtension_iff]
  refine exists_congr fun suffix => ?_
  simp only [List.mem_singleton, exists_eq_left, hcase]
  refine and_congr_left fun hsuffix => extension?_eq_some_iff ?_
  rintro rfl
  cases hsuffix

theorem not_isWorkbookPath_of_hidden (h : fileName? path.toList = some ('.' :: xlsx)) :
    ¬ isWorkbookPath path := by
  rw [isWorkbookPath, hasExtension_iff, extension?_of_hidden isExtension_xlsx h]
  rintro ⟨suffix, hsuffix, -⟩
  cases hsuffix

theorem toList_added (path : String) :
    (path ++ ".xlsx").toList = path.toList ++ '.' :: xlsx :=
  String.toList_append

theorem fileName?_added_xlsx (hopen : EndsOpen path.toList) :
    fileName? (path ++ ".xlsx").toList = some ('.' :: xlsx) := by
  rw [toList_added]
  exact fileName?_added isExtension_xlsx hopen

theorem isWorkbookPath_added : isWorkbookPath (path ++ ".xlsx") ↔ ¬ EndsOpen path.toList := by
  constructor
  · intro h hopen
    exact not_isWorkbookPath_of_hidden (fileName?_added_xlsx hopen) h
  · intro hopen
    rw [isWorkbookPath, hasExtension_iff, toList_added]
    exact ⟨_, extension?_added isExtension_xlsx hopen, "xlsx", List.mem_singleton_self _, by decide⟩

theorem outputPath_of_workbook (h : isWorkbookPath path) : outputPath path = path :=
  if_pos h

theorem outputPath_of_not_workbook (h : ¬ isWorkbookPath path) :
    outputPath path = path ++ ".xlsx" :=
  if_neg h

theorem names_outputPath_iff :
    names (outputPath path).toList = names path.toList ↔ isWorkbookPath path := by
  by_cases h : isWorkbookPath path
  · simp only [outputPath_of_workbook h, h]
  · rw [outputPath_of_not_workbook h, toList_added]
    exact iff_of_false (names_added_ne isExtension_xlsx _) h

theorem outputPath_eq_self_iff : outputPath path = path ↔ isWorkbookPath path := by
  constructor
  · intro h
    apply names_outputPath_iff.1
    rw [h]
  · exact outputPath_of_workbook

theorem isWorkbookPath_outputPath_iff :
    isWorkbookPath (outputPath path) ↔ isWorkbookPath path ∨ ¬ EndsOpen path.toList := by
  by_cases h : isWorkbookPath path
  · simp only [outputPath_of_workbook h, h, true_or]
  · rw [outputPath_of_not_workbook h, isWorkbookPath_added, or_iff_right h]

theorem fileName?_outputPath_iff :
    fileName? (outputPath path).toList = some ('.' :: xlsx) ↔
      ¬ isWorkbookPath (outputPath path) := by
  constructor
  · exact not_isWorkbookPath_of_hidden
  · intro h
    rw [isWorkbookPath_outputPath_iff, not_or, not_not] at h
    obtain ⟨hpath, hopen⟩ := h
    rw [outputPath_of_not_workbook hpath]
    exact fileName?_added_xlsx hopen

/-- The path of the output names a workbook, and a second look at it adds nothing, except where the
given path has no name at its end that the extension could be added to: there the file has the
extension for its name. A path is left as it is only if it names a workbook. -/
theorem outputPath_workbook (path : String) :
    (isWorkbookPath path ↔
        ∃ suffix, Carries path.toList suffix ∧ suffix.map Char.toLower = xlsx) ∧
      (isWorkbookPath (outputPath path) ↔ isWorkbookPath path ∨ ¬ EndsOpen path.toList) ∧
      (outputPath (outputPath path) = outputPath path ↔
        isWorkbookPath path ∨ ¬ EndsOpen path.toList) ∧
      (outputPath path = path ↔ isWorkbookPath path) ∧
      (names (outputPath path).toList = names path.toList ↔ isWorkbookPath path) ∧
      (fileName? (outputPath path).toList = some ('.' :: xlsx) ↔
        ¬ isWorkbookPath (outputPath path)) := by
  have hagain : outputPath (outputPath path) = outputPath path ↔
      isWorkbookPath path ∨ ¬ EndsOpen path.toList :=
    outputPath_eq_self_iff.trans isWorkbookPath_outputPath_iff
  exact ⟨isWorkbookPath_iff, isWorkbookPath_outputPath_iff, hagain, outputPath_eq_self_iff,
    names_outputPath_iff, fileName?_outputPath_iff⟩

example : isWorkbookPath (outputPath "out/..") ∧ isWorkbookPath (outputPath "out/.") := by
  decide

/-- A folder is accepted for the output. The file in it does not name a workbook, and a second look
at its path adds the extension again. -/
theorem outputPath_folder :
    Request.ofArguments ["--template", "t.xlsx", "--output", "out/"] =
        .run { template := "t.xlsx", output := "out/" } ∧
      ¬ isWorkbookPath (outputPath "out/") ∧
      outputPath (outputPath "out/") ≠ outputPath "out/" := by
  refine ⟨?_, ?_, ?_⟩
  · decide
  · decide
  · decide

end CommandLine.Job

end SheetTemplate
