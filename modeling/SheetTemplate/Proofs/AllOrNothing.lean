import SheetTemplate.CommandLine.Job
import SheetTemplate.Languages
import SheetTemplate.Proofs.FilePlaces

namespace SheetTemplate

namespace Logged

variable {ε α β : Type}

def result (x : Logged ε α) : Except ε α := (outcome x #[]).1

def Steady (x : Logged ε α) : Prop := ∀ j : Journal, (outcome x j).1 = x.result

theorem steady_pure (a : α) : (pure a : Logged ε α).Steady := fun _ => rfl

theorem steady_throw (e : ε) : (throw e : Logged ε α).Steady := fun _ => rfl

theorem steady_note (level : Level) (topic message : String) :
    (note level topic message : Logged ε Unit).Steady :=
  fun _ => rfl

theorem steady_liftM (x : Except ε α) : (liftM x : Logged ε α).Steady := by
  intro j
  cases x <;> rfl

theorem Steady.bind {x : Logged ε α} {f : α → Logged ε β} (hx : x.Steady)
    (hf : ∀ a, (f a).Steady) : Steady (x >>= f) := by
  intro j
  have hj := hx j
  unfold result at hj ⊢
  rw [outcome_bind, outcome_bind]
  generalize outcome x j = y at hj ⊢
  generalize outcome x #[] = z at hj ⊢
  obtain ⟨r, j₁⟩ := y
  obtain ⟨r', j₂⟩ := z
  obtain rfl : r = r' := hj
  cases r with
  | error e => rfl
  | ok a => exact (hf a j₁).trans (hf a j₂).symm

theorem Steady.foldlM {f : β → α → Logged ε β} (hf : ∀ b a, (f b a).Steady) (l : List α) (b : β) :
    Steady (l.foldlM f b) := by
  induction l generalizing b with
  | nil => exact steady_pure b
  | cons a l ih =>
    rw [List.foldlM_cons]
    exact (hf b a).bind ih

end Logged

open Logged

theorem Xlsx.steady_read (b : ByteArray) : Steady (Xlsx.read b) := by
  have haddSheets (o : Opened) (ids : Array Nat) (names : List String) (book : Workbook) :
      Steady (addSheets o ids book names) := by
    induction names generalizing book with
    | nil => exact steady_pure book
    | cons name rest ih =>
      refine (steady_liftM _).bind fun contents => (steady_liftM _).bind fun book => ?_
      exact (steady_liftM _).bind fun s => (steady_note _ _ _).bind fun _ => ih book
  exact (steady_liftM _).bind fun opened => haddSheets _ _ _ _

namespace Loader

theorem steady_xlsx (fs : Files) (path : String) : Steady (xlsx.load fs path) := by
  unfold xlsx
  dsimp only
  split
  · exact steady_throw _
  · exact steady_liftM _

theorem steady_csv (fs : Files) (path : String) : Steady (csv.load fs path) := by
  unfold csv
  dsimp only
  split
  · exact steady_throw _
  · split
    · exact steady_pure _
    · exact steady_throw _

theorem steady_json (fs : Files) (path : String) : Steady (json.load fs path) := by
  unfold json
  dsimp only
  split
  · exact steady_throw _
  · exact steady_throw _
  · split
    · exact steady_pure _
    · exact steady_throw _

theorem steady_loadFile {parts : List Part}
    (hparts : ∀ part ∈ parts, ∀ fs path, Steady (part.loader.load fs path)) (fs : Files)
    (m : DataMap) (path : String) : Steady (loadFile parts fs m path) := by
  unfold loadFile
  split
  · exact steady_pure m
  · split
    · exact (steady_note _ _ _).bind fun _ => steady_pure m
    · rename_i part hpart
      refine (hparts part (List.mem_of_find?_eq_some hpart) fs path).bind fun loaded => ?_
      exact (steady_note _ _ _).bind fun _ => steady_pure _

theorem steady_folder {parts : List Part}
    (hparts : ∀ part ∈ parts, ∀ fs path, Steady (part.loader.load fs path)) (fs : Files)
    (path : String) : Steady ((folder parts).load fs path) := by
  unfold folder
  dsimp only
  split
  · exact steady_throw _
  · exact steady_throw _
  · split
    · exact steady_throw _
    · exact .foldlM (steady_loadFile hparts fs) _ _

theorem steady_defaultParts :
    ∀ part ∈ defaultParts, ∀ fs path, Steady (part.loader.load fs path) := by
  simp only [defaultParts, List.forall_mem_cons, List.not_mem_nil, false_implies, implies_true,
    and_true]
  exact ⟨steady_xlsx, steady_csv, steady_json⟩

theorem steady_default (fs : Files) (path : String) :
    Steady ((folder defaultParts).load fs path) :=
  steady_folder steady_defaultParts fs path

end Loader

namespace CommandLine

/-- With these files the job returns `x`, whatever the journal is, and leaves the files alone. -/
def Looks {α : Type} (fs : Files) (j : Job α) (x : Except Failure α) : Prop :=
  ∀ journal, ∃ journal', outcome j ⟨fs, journal⟩ = (x, ⟨fs, journal'⟩)

section

variable {α β : Type} {fs : Files} {j : Job α} {x : Except Failure α}

theorem Looks.bind {k : α → Job β} {y : α → Except Failure β} (h : Looks fs j x)
    (hk : ∀ a, Looks fs (k a) (y a)) : Looks fs (j >>= k) (x >>= y) := by
  intro journal
  obtain ⟨journal', hj⟩ := h journal
  rw [outcome_bind, hj]
  cases x with
  | error e => exact ⟨journal', rfl⟩
  | ok a => exact hk a journal'

theorem looks_pure (a : α) : Looks fs (pure a) (pure a) := fun journal => ⟨journal, rfl⟩

theorem looks_throw (e : Failure) : Looks fs (throw e : Job α) (throw e) :=
  fun journal => ⟨journal, rfl⟩

theorem Looks.afterTell {j : Job α} (h : Looks fs j x) (lines : List LogEntry) :
    Looks fs (do Job.tell lines; j) x :=
  fun journal => h (journal ++ lines.toArray)

theorem Looks.withFiles {k : Files → Job α} (h : Looks fs (k fs) x) : Looks fs (Job.files >>= k) x :=
  h

theorem looks_orFail {ε : Type} (failure : ε → Failure) (x : Except ε α) :
    Looks fs (Job.orFail failure x) (x.mapError failure) := by
  cases x with
  | error e => exact looks_throw _
  | ok a => exact looks_pure a

theorem looks_logged {x : Logged SheetError α} (hx : Steady x) (failure : SheetError → Failure) :
    Looks fs (Job.logged failure x) (x.result.mapError failure) := by
  intro journal
  rw [← hx journal]
  unfold Job.logged
  rw [outcome_bind]
  change ∃ journal', outcome (do
    set ({ files := fs, journal := (outcome x journal).2 } : Desk)
    Job.orFail failure (outcome x journal).1) ⟨fs, journal⟩ = _
  rw [outcome_bind]
  exact looks_orFail failure _ _

end

section

variable {β : Type} [Language β]

def startedRegistry (languages : List β) (fs : Files) :
    Option String → Except Failure (Registry β)
  | some path => do
    let settings ← (Settings.load fs path).mapError (.settings path)
    pure (settings.registry languages)
  | none => pure (Settings.registry {} languages)

def boundRegistry (r : Registry β) (fs : Files) : Option String → Except Failure (Registry β)
  | some folder => do
    let data ← ((Loader.folder Loader.defaultParts).load fs folder).result.mapError (.data folder)
    (r.bind data).1.mapError .binding
    pure (r.bind data).2
  | none => pure r

def openedTemplate (fs : Files) (path : String) : Except Failure Workbook := do
  let contents ← (fs.read path).mapError fun e => .template path (.xlsxRead e.message)
  (Xlsx.read contents).result.mapError (.template path)

def renderedBook (book : Workbook) (r : Registry β) : Except Failure Workbook := do
  (render book r).1.mapError .rendering
  pure (render book r).2.book

/-- The steps up to the render as a function of the files: the rendered workbook, or the failure of
the first step that fails. -/
def rendered (languages : List β) (o : Options) (fs : Files) : Except Failure Workbook := do
  Job.checkTemplate fs o.template
  let registry ← startedRegistry languages fs o.config
  let registry ← boundRegistry registry fs o.data
  let template ← openedTemplate fs o.template
  renderedBook template registry

theorem looks_startRegistry (languages : List β) (fs : Files) (config : Option String) :
    Looks fs (Job.startRegistry languages config) (startedRegistry languages fs config) := by
  cases config with
  | none => exact (looks_pure _).afterTell _
  | some path =>
    exact .withFiles <| (looks_orFail _ _).bind fun settings => (looks_pure _).afterTell _

theorem looks_bindData (r : Registry β) (fs : Files) (folder : String) :
    Looks fs (Job.bindData r folder) (boundRegistry r fs (some folder)) := by
  refine .withFiles <| (looks_logged (Loader.steady_default fs folder) _).bind fun data => ?_
  refine .afterTell (.afterTell ?_ _) _
  exact (looks_orFail _ _).bind fun _ => looks_pure _

theorem looks_openTemplate (fs : Files) (path : String) :
    Looks fs (Job.openTemplate path) (openedTemplate fs path) :=
  .withFiles <| (looks_orFail _ _).bind fun b => looks_logged (Xlsx.steady_read b) _

theorem looks_renderBook (book : Workbook) (r : Registry β) (fs : Files) :
    Looks fs (Job.renderBook book r) (renderedBook book r) :=
  .afterTell ((looks_orFail _ _).bind fun _ => (looks_pure _).afterTell _) _

def Job.prepare (languages : List β) (o : Options) : Job Workbook := do
  Job.orFail id (Job.checkTemplate (← Job.files) o.template)
  let registry ← Job.startRegistry languages o.config
  let registry ← match o.data with
    | some folder => Job.bindData registry folder
    | none => pure registry
  let book ← Job.openTemplate o.template
  Job.renderBook book registry

def Job.finish (o : Options) (book : Workbook) : Job Unit := do
  Job.saveBook book (Job.outputPath o.output)
  match o.markdown with
  | some path => Job.savePreview book path
  | none => pure ()
  Job.inform "[finish]"

theorem run_eq (languages : List β) (o : Options) :
    Job.run languages o = Job.prepare languages o >>= Job.finish o := by
  unfold Job.run Job.prepare Job.finish
  cases o.data <;> cases o.markdown <;> simp only [bind_assoc]

theorem looks_prepare (languages : List β) (o : Options) (fs : Files) :
    Looks fs (Job.prepare languages o) (rendered languages o fs) := by
  have hcheck : Looks fs (Job.orFail id (Job.checkTemplate fs o.template)) _ := looks_orFail id _
  rw [show (Job.checkTemplate fs o.template).mapError id = Job.checkTemplate fs o.template by
    cases Job.checkTemplate fs o.template <;> rfl] at hcheck
  have hopen (registry : Registry β) := (looks_openTemplate fs o.template).bind
    fun book => looks_renderBook book registry fs
  unfold Job.prepare rendered
  refine .withFiles <| hcheck.bind fun _ => ?_
  refine (looks_startRegistry languages fs o.config).bind fun registry => ?_
  cases o.data with
  | none => exact hopen registry
  | some folder => exact (looks_bindData registry fs folder).bind hopen

theorem outcome_orFail_eq_ok_iff {α ε : Type} {failure : ε → Failure} {x : Except ε α} {a : α}
    {d d' : Desk} :
    outcome (Job.orFail failure x) d = (.ok a, d') ↔ x = .ok a ∧ d' = d := by
  cases x with
  | error e =>
    constructor
    · rintro ⟨⟩
    · rintro ⟨⟨⟩, -⟩
  | ok b =>
    change (Except.ok b, d) = (Except.ok a, d') ↔ _
    simp only [Prod.mk.injEq, Except.ok.injEq, eq_comm]

theorem write_eq_ok_iff {book : Workbook} {bytes : ByteArray} :
    Xlsx.write book = .ok bytes ↔
      ∃ stored, Xlsx.store book = .ok stored ∧ stored.checkNames = .ok () ∧ stored.bytes = bytes := by
  unfold Xlsx.write
  rw [bind_eq_ok_iff]
  refine exists_congr fun stored => and_congr_right fun _ => ?_
  rw [bind_eq_ok_iff]
  constructor
  · rintro ⟨_, hnames, hbytes⟩
    exact ⟨hnames, Except.ok.inj hbytes⟩
  · rintro ⟨hnames, rfl⟩
    exact ⟨(), hnames, rfl⟩

theorem outcome_write_eq_ok_iff {α : Type} {failure : FileError → Failure} {path : String}
    {contents : ByteArray} {fs : Files} {k : Files → Job α} {a : α} {d d' : Desk} :
    outcome (Job.orFail failure (fs.write path contents) >>= k) d = (.ok a, d') ↔
      ∃ place, fs.MayHoldFile path place ∧ outcome (k (fs.put place contents)) d = (.ok a, d') := by
  rw [outcome_bind_eq_ok_iff]
  constructor
  · rintro ⟨_, _, hput, hrest⟩
    obtain ⟨hwrite, rfl⟩ := outcome_orFail_eq_ok_iff.1 hput
    obtain ⟨place, hplace, rfl⟩ := Files.write_eq_ok_iff.1 hwrite
    exact ⟨place, hplace, hrest⟩
  · rintro ⟨place, hplace, hrest⟩
    refine ⟨_, d, outcome_orFail_eq_ok_iff.2 ⟨?_, rfl⟩, hrest⟩
    exact Files.write_eq_ok_iff.2 ⟨place, hplace, rfl⟩

def saved (fs : Files) (place : List String) (bytes : ByteArray) : Files :=
  (fs.put place .empty).put place bytes

theorem mayHoldFile_saved {fs : Files} {place x : List String} {path : String}
    (hplace : fs.node? place ≠ some .folder) (bytes : ByteArray) :
    (saved fs place bytes).MayHoldFile path x ↔ fs.MayHoldFile path x := by
  have hempty : (fs.put place .empty).node? place ≠ some .folder := by
    rw [Files.node?_put hplace, if_pos rfl]
    rintro ⟨⟩
  exact (Files.mayHoldFile_put hempty).trans (Files.mayHoldFile_put hplace)

theorem node?_saved {fs : Files} {place : List String} {bytes : ByteArray}
    (hplace : fs.node? place ≠ some .folder) (x : List String) :
    (saved fs place bytes).node? x = if place = x then some (.file bytes) else fs.node? x := by
  have hempty : (fs.put place .empty).node? place ≠ some .folder := by
    rw [Files.node?_put hplace, if_pos rfl]
    rintro ⟨⟩
  rw [saved, Files.node?_put hempty, Files.node?_put hplace]
  split <;> rfl

theorem outcome_saveBook_eq_ok_iff {book : Workbook} {path : String} {fs : Files}
    {journal : Journal} {d : Desk} :
    outcome (Job.saveBook book path) ⟨fs, journal⟩ = (.ok (), d) ↔
      ∃ bytes place, Xlsx.write book = .ok bytes ∧ fs.MayHoldFile path place ∧
        ⟨saved fs place bytes, journal⟩ = d := by
  unfold Job.saveBook
  simp only [write_eq_ok_iff]
  have hput {failure : FileError → Failure} {contents : ByteArray} {fs : Files} {d : Desk} :
      outcome (do
        let d ← get
        set { d with files := ← Job.orFail failure (d.files.write path contents) } : Job Unit)
          ⟨fs, journal⟩ = (.ok (), d) ↔
        ∃ place, fs.MayHoldFile path place ∧ ⟨fs.put place contents, journal⟩ = d := by
    change outcome (Job.orFail failure (fs.write path contents) >>= fun files =>
      set ({ files, journal } : Desk)) ⟨fs, journal⟩ = _ ↔ _
    refine outcome_write_eq_ok_iff.trans (exists_congr fun place => and_congr_right fun _ => ?_)
    exact ⟨congrArg Prod.snd, congrArg (Prod.mk (Except.ok ()))⟩
  rw [outcome_bind_eq_ok_iff]
  constructor
  · rintro ⟨stored, _, hstore, hrest⟩
    obtain ⟨hstored, rfl⟩ := outcome_orFail_eq_ok_iff.1 hstore
    obtain ⟨_, _, hempty, hrest⟩ := outcome_bind_eq_ok_iff.1 hrest
    obtain ⟨place, hplace, rfl⟩ := hput.1 hempty
    obtain ⟨_, _, hnames, hrest⟩ := outcome_bind_eq_ok_iff.1 hrest
    obtain ⟨hunique, rfl⟩ := outcome_orFail_eq_ok_iff.1 hnames
    obtain ⟨place', hplace', rfl⟩ := hput.1 hrest
    have hleads := ((Files.mayHoldFile_put hplace.noFolder).1 hplace').leads
    obtain rfl : place = place' := Except.ok.inj (hplace.leads.symm.trans hleads)
    exact ⟨_, place, ⟨stored, hstored, hunique, rfl⟩, hplace, rfl⟩
  · rintro ⟨_, place, ⟨stored, hstored, hunique, rfl⟩, hplace, rfl⟩
    refine ⟨stored, _, outcome_orFail_eq_ok_iff.2 ⟨hstored, rfl⟩, ?_⟩
    refine outcome_bind_eq_ok_iff.2 ⟨(), _, hput.2 ⟨place, hplace, rfl⟩, ?_⟩
    refine outcome_bind_eq_ok_iff.2 ⟨(), _, outcome_orFail_eq_ok_iff.2 ⟨hunique, rfl⟩, ?_⟩
    exact hput.2 ⟨place, (Files.mayHoldFile_put hplace.noFolder).2 hplace, rfl⟩

theorem outcome_savePreview_eq_ok_iff {book : Workbook} {path : String} {fs : Files}
    {journal : Journal} {d : Desk} :
    outcome (Job.savePreview book path) ⟨fs, journal⟩ = (.ok (), d) ↔
      ∃ place, fs.MayHoldFile path place ∧
        ⟨fs.put place (Preview.text book).toUTF8,
          journal ++ [⟨.info, Job.topic, "exported preview to " ++ path⟩].toArray⟩ = d := by
  change outcome (Job.orFail (.preview path) (fs.write path (Preview.text book).toUTF8) >>=
    fun files => do
      set ({ files, journal } : Desk)
      Job.inform ("exported preview to " ++ path)) ⟨fs, journal⟩ = _ ↔ _
  refine outcome_write_eq_ok_iff.trans (exists_congr fun place => and_congr_right fun _ => ?_)
  exact ⟨congrArg Prod.snd, congrArg (Prod.mk (Except.ok ()))⟩

inductive Written (o : Options) (book : Workbook) (bytes : ByteArray) (fs : Files) : Files → Prop
  | alone {place : List String} (hmarkdown : o.markdown = none)
      (hplace : fs.MayHoldFile (Job.outputPath o.output) place) :
      Written o book bytes fs (saved fs place bytes)
  | both {path : String} {place place' : List String} (hmarkdown : o.markdown = some path)
      (hplace : fs.MayHoldFile (Job.outputPath o.output) place)
      (hplace' : fs.MayHoldFile path place') :
      Written o book bytes fs ((saved fs place bytes).put place' (Preview.text book).toUTF8)

/-- The steps after the render succeed exactly if the workbook can be stored and both files can be
written. -/
theorem finish_ok_iff {o : Options} {book : Workbook} {fs fs' : Files} {journal : Journal} :
    (∃ journal', outcome (Job.finish o book) ⟨fs, journal⟩ = (.ok (), ⟨fs', journal'⟩)) ↔
      ∃ bytes, Xlsx.write book = .ok bytes ∧ Written o book bytes fs fs' := by
  have hsave (bytes : ByteArray) (place : List String) (hbytes : Xlsx.write book = .ok bytes)
      (hplace : fs.MayHoldFile (Job.outputPath o.output) place) :
      outcome (Job.saveBook book (Job.outputPath o.output)) ⟨fs, journal⟩ =
        (.ok (), ⟨saved fs place bytes, journal⟩) :=
    outcome_saveBook_eq_ok_iff.2 ⟨bytes, place, hbytes, hplace, rfl⟩
  unfold Job.finish
  cases hmarkdown : o.markdown with
  | none =>
    constructor
    · rintro ⟨journal', h⟩
      obtain ⟨_, _, hsave, hrest⟩ := outcome_bind_eq_ok_iff.1 h
      obtain ⟨bytes, place, hbytes, hplace, rfl⟩ := outcome_saveBook_eq_ok_iff.1 hsave
      obtain rfl := congrArg Desk.files (congrArg Prod.snd hrest)
      exact ⟨bytes, hbytes, .alone hmarkdown hplace⟩
    · rintro ⟨bytes, hbytes, ⟨-, hplace⟩ | ⟨hmarkdown', -, -⟩⟩
      · exact ⟨_, outcome_bind_eq_ok_iff.2 ⟨(), _, hsave bytes _ hbytes hplace, rfl⟩⟩
      · rw [hmarkdown] at hmarkdown'
        cases hmarkdown'
  | some path =>
    constructor
    · rintro ⟨journal', h⟩
      obtain ⟨_, _, hsave, hrest⟩ := outcome_bind_eq_ok_iff.1 h
      obtain ⟨bytes, place, hbytes, hplace, rfl⟩ := outcome_saveBook_eq_ok_iff.1 hsave
      obtain ⟨_, _, hpreview, hrest⟩ := outcome_bind_eq_ok_iff.1 hrest
      obtain ⟨place', hplace', rfl⟩ := outcome_savePreview_eq_ok_iff.1 hpreview
      obtain rfl := congrArg Desk.files (congrArg Prod.snd hrest)
      refine ⟨bytes, hbytes, .both hmarkdown hplace ?_⟩
      exact (mayHoldFile_saved hplace.noFolder _).1 hplace'
    · rintro ⟨bytes, hbytes, ⟨hmarkdown', -⟩ | ⟨hmarkdown', hplace, hplace'⟩⟩
      · rw [hmarkdown] at hmarkdown'
        cases hmarkdown'
      · obtain rfl : path = _ := Option.some.inj (hmarkdown.symm.trans hmarkdown')
        have hpreview : outcome (Job.savePreview book path) ⟨saved fs _ bytes, journal⟩ = _ :=
          outcome_savePreview_eq_ok_iff.2 ⟨_, (mayHoldFile_saved hplace.noFolder _).2 hplace', rfl⟩
        exact ⟨_, outcome_bind_eq_ok_iff.2
          ⟨(), _, hsave bytes _ hbytes hplace, outcome_bind_eq_ok_iff.2 ⟨(), _, hpreview, rfl⟩⟩⟩

theorem exists_written_iff {o : Options} {book : Workbook} {bytes : ByteArray} {fs : Files} :
    (∃ fs', Written o book bytes fs fs') ↔
      (∃ place, fs.MayHoldFile (Job.outputPath o.output) place) ∧
        ∀ path, o.markdown = some path → ∃ place, fs.MayHoldFile path place := by
  constructor
  · rintro ⟨_, ⟨hmarkdown, hplace⟩ | ⟨hmarkdown, hplace, hplace'⟩⟩
    · refine ⟨⟨_, hplace⟩, fun path hpath => ?_⟩
      rw [hmarkdown] at hpath
      cases hpath
    · refine ⟨⟨_, hplace⟩, fun path hpath => ?_⟩
      obtain rfl := Option.some.inj (hmarkdown.symm.trans hpath)
      exact ⟨_, hplace'⟩
  · rintro ⟨⟨place, hplace⟩, hpreview⟩
    cases hmarkdown : o.markdown with
    | none => exact ⟨_, .alone hmarkdown hplace⟩
    | some path =>
      obtain ⟨place', hplace'⟩ := hpreview path hmarkdown
      exact ⟨_, .both hmarkdown hplace hplace'⟩

namespace Written

variable {o : Options} {book : Workbook} {bytes : ByteArray} {fs fs' : Files}

theorem read_output (h : Written o book bytes fs fs')
    (hapart : ∀ path place, o.markdown = some path → fs.MayHoldFile path place →
      ¬fs.MayHoldFile (Job.outputPath o.output) place) :
    fs'.read (Job.outputPath o.output) = .ok bytes := by
  cases h with
  | @alone place _ hplace =>
    refine Files.read_eq_ok_iff.2 ⟨place, ((mayHoldFile_saved hplace.noFolder _).2 hplace).leads, ?_⟩
    rw [node?_saved hplace.noFolder, if_pos rfl]
  | @both path place place' hmarkdown hplace hplace' =>
    have hsaved := (mayHoldFile_saved hplace.noFolder bytes).2 hplace
    have hsaved' := (mayHoldFile_saved hplace.noFolder bytes).2 hplace'
    have hne : place' ≠ place := by
      rintro rfl
      exact hapart path place' hmarkdown hplace' hplace
    refine Files.read_eq_ok_iff.2 ⟨place, (Files.locate_put hsaved'.noFolder).2 hsaved.leads, ?_⟩
    rw [Files.node?_put hsaved'.noFolder, if_neg hne, node?_saved hplace.noFolder, if_pos rfl]

theorem read_preview (h : Written o book bytes fs fs') {path : String}
    (hpath : o.markdown = some path) : fs'.read path = .ok (Preview.text book).toUTF8 := by
  cases h with
  | alone hmarkdown =>
    rw [hmarkdown] at hpath
    cases hpath
  | @both _ place place' hmarkdown hplace hplace' =>
    obtain rfl := Option.some.inj (hmarkdown.symm.trans hpath)
    have hsaved' := (mayHoldFile_saved hplace.noFolder bytes).2 hplace'
    refine Files.read_eq_ok_iff.2 ⟨place', (Files.locate_put hsaved'.noFolder).2 hsaved'.leads, ?_⟩
    rw [Files.node?_put hsaved'.noFolder, if_pos rfl]

theorem node?_eq (h : Written o book bytes fs fs') {x : List String}
    (houtput : ¬fs.MayHoldFile (Job.outputPath o.output) x)
    (hpreview : ∀ path, o.markdown = some path → ¬fs.MayHoldFile path x) :
    fs'.node? x = fs.node? x := by
  have hne {place : List String} (hplace : fs.MayHoldFile (Job.outputPath o.output) place) :
      place ≠ x := by
    rintro rfl
    exact houtput hplace
  cases h with
  | alone _ hplace => rw [node?_saved hplace.noFolder, if_neg (hne hplace)]
  | @both path place place' hmarkdown hplace hplace' =>
    have hne' : place' ≠ x := by
      rintro rfl
      exact hpreview path hmarkdown hplace'
    have hsaved' := (mayHoldFile_saved hplace.noFolder bytes).2 hplace'
    rw [Files.node?_put hsaved'.noFolder, if_neg hne', node?_saved hplace.noFolder,
      if_neg (hne hplace)]

end Written

/-- A workbook with positions that cannot be stored fails before anything is written. -/
theorem outcome_saveBook_invalidRange {book : Workbook} {path range : String} {d : Desk}
    (h : Xlsx.write book = .error (.invalidRange range)) :
    outcome (Job.saveBook book path) d = (.error (.saving path (.invalidRange range)), d) := by
  unfold Job.saveBook
  unfold Xlsx.write at h
  rw [outcome_bind]
  cases hstore : Xlsx.store book with
  | error e =>
    rw [hstore] at h
    obtain rfl : e = .invalidRange range := Except.error.inj h
    rfl
  | ok stored =>
    -- The names of sheets are refused with another error.
    rw [hstore] at h
    change (do stored.checkNames; pure stored.bytes) = _ at h
    unfold Xlsx.StoredBook.checkNames at h
    split at h <;> cases h

/-- Every step that the options ask for succeeds, with this workbook and these bytes. -/
structure Succeeds (languages : List β) (o : Options) (fs : Files) (book : Workbook)
    (bytes : ByteArray) : Prop where
  renders : rendered languages o fs = .ok book
  stores : Xlsx.write book = .ok bytes
  output : ∃ place, fs.MayHoldFile (Job.outputPath o.output) place
  preview : ∀ path, o.markdown = some path → ∃ place, fs.MayHoldFile path place

section

variable {languages : List β} {args : List String} {o : Options} {fs : Files}

theorem outcome_run_of_error {e : Failure} (h : rendered languages o fs = .error e) :
    ∃ journal, outcome (Job.run languages o) ⟨fs, #[]⟩ = (.error e, ⟨fs, journal⟩) := by
  obtain ⟨journal, hprepare⟩ := looks_prepare languages o fs #[]
  rw [run_eq, outcome_bind, hprepare, h]
  exact ⟨journal, rfl⟩

theorem outcome_run_of_ok {book : Workbook} (h : rendered languages o fs = .ok book) :
    ∃ journal, outcome (Job.run languages o) ⟨fs, #[]⟩ =
      outcome (Job.finish o book) ⟨fs, journal⟩ := by
  obtain ⟨journal, hprepare⟩ := looks_prepare languages o fs #[]
  rw [run_eq, outcome_bind, hprepare, h]
  exact ⟨journal, rfl⟩

theorem answer_of_error (hrun : Request.ofArguments args = .run o) {e : Failure} {d : Desk}
    (h : outcome (Job.run languages o) ⟨fs, #[]⟩ = (.error e, d)) :
    answer languages args fs =
      ⟨1, "", shown o.verbosity d.journal ++ "Error: " ++ e.message ++ "\n", d.files⟩ := by
  unfold answer
  rw [hrun]
  unfold outcome at h
  simp only [h]

theorem answer_of_ok (hrun : Request.ofArguments args = .run o) {d : Desk}
    (h : outcome (Job.run languages o) ⟨fs, #[]⟩ = (.ok (), d)) :
    answer languages args fs = ⟨0, "", shown o.verbosity d.journal, d.files⟩ := by
  unfold answer
  rw [hrun]
  unfold outcome at h
  simp only [h]

/-- A failure up to the render leaves the files as they are. -/
theorem answer_of_rendered_error (hrun : Request.ofArguments args = .run o) {e : Failure}
    (h : rendered languages o fs = .error e) :
    (answer languages args fs).code = 1 ∧ (answer languages args fs).files = fs ∧
      ∃ lines, (answer languages args fs).stderr = lines ++ "Error: " ++ e.message ++ "\n" := by
  obtain ⟨journal, hjournal⟩ := outcome_run_of_error h
  rw [answer_of_error hrun hjournal]
  exact ⟨rfl, rfl, _, rfl⟩

theorem answer_of_invalidRange (hrun : Request.ofArguments args = .run o) {book : Workbook}
    {range : String} (h : rendered languages o fs = .ok book)
    (hwrite : Xlsx.write book = .error (.invalidRange range)) :
    (answer languages args fs).code = 1 ∧ (answer languages args fs).files = fs := by
  obtain ⟨journal, hjournal⟩ := outcome_run_of_ok h
  unfold Job.finish at hjournal
  rw [outcome_bind, outcome_saveBook_invalidRange hwrite] at hjournal
  rw [answer_of_error hrun hjournal]
  exact ⟨rfl, rfl⟩

theorem Succeeds.answer (hrun : Request.ofArguments args = .run o) {book : Workbook}
    {bytes : ByteArray} (h : Succeeds languages o fs book bytes) :
    (answer languages args fs).code = 0 ∧
      Written o book bytes fs (answer languages args fs).files := by
  obtain ⟨fs', hwritten⟩ := exists_written_iff.2 ⟨h.output, h.preview⟩
  obtain ⟨journal, hjournal⟩ := outcome_run_of_ok h.renders
  obtain ⟨journal', hfinish⟩ := finish_ok_iff.2 ⟨bytes, h.stores, hwritten⟩
  rw [answer_of_ok hrun (hjournal.trans hfinish)]
  exact ⟨rfl, hwritten⟩

theorem exists_succeeds (hrun : Request.ofArguments args = .run o)
    (hcode : (answer languages args fs).code = 0) :
    ∃ book bytes, Succeeds languages o fs book bytes := by
  cases h : rendered languages o fs with
  | error e => simp [answer_of_rendered_error hrun h] at hcode
  | ok book =>
    obtain ⟨journal, hjournal⟩ := outcome_run_of_ok h
    rcases hfinish : outcome (Job.finish o book) ⟨fs, journal⟩ with ⟨e | _, fs', journal'⟩
    · rw [answer_of_error hrun (hjournal.trans hfinish)] at hcode
      cases hcode
    · obtain ⟨bytes, hbytes, hwritten⟩ := finish_ok_iff.1 ⟨journal', hfinish⟩
      obtain ⟨houtput, hpreview⟩ := exists_written_iff.1 ⟨fs', hwritten⟩
      exact ⟨book, bytes, h, hbytes, houtput, hpreview⟩

/-- A run writes everything that is asked for, or it fails. A failure up to the render, or for a
position that cannot be stored, leaves all files as they are. -/
theorem answer_allOrNothing (languages : List β) (hrun : Request.ofArguments args = .run o)
    (hapart : ∀ path place, o.markdown = some path → fs.MayHoldFile path place →
      ¬fs.MayHoldFile (Job.outputPath o.output) place) :
    (∀ e, rendered languages o fs = .error e →
      (answer languages args fs).code = 1 ∧ (answer languages args fs).files = fs ∧
        ∃ lines, (answer languages args fs).stderr = lines ++ "Error: " ++ e.message ++ "\n") ∧
    (∀ book range, rendered languages o fs = .ok book →
      Xlsx.write book = .error (.invalidRange range) →
        (answer languages args fs).code = 1 ∧ (answer languages args fs).files = fs) ∧
    ((answer languages args fs).code = 0 ↔ ∃ book bytes, Succeeds languages o fs book bytes) ∧
    ∀ book bytes, Succeeds languages o fs book bytes →
      (answer languages args fs).files.read (Job.outputPath o.output) = .ok bytes ∧
      (∀ path, o.markdown = some path →
        (answer languages args fs).files.read path = .ok (Preview.text book).toUTF8) ∧
      ∀ place, ¬fs.MayHoldFile (Job.outputPath o.output) place →
        (∀ path, o.markdown = some path → ¬fs.MayHoldFile path place) →
          (answer languages args fs).files.node? place = fs.node? place := by
  refine ⟨fun e => answer_of_rendered_error hrun, fun book range => answer_of_invalidRange hrun,
    ?_, ?_⟩
  · exact ⟨exists_succeeds hrun, fun ⟨book, bytes, h⟩ => (h.answer hrun).1⟩
  · intro book bytes h
    obtain ⟨-, hwritten⟩ := h.answer hrun
    exact ⟨hwritten.read_output hapart, fun path => hwritten.read_preview,
      fun place => hwritten.node?_eq⟩

def replacingArguments : List String :=
  ["--template", "report.xlsx", "--output", "report.xlsx", "--markdown", "report.md"]

def replacingOptions : Options :=
  { template := "report.xlsx", output := "report.xlsx", markdown := some "report.md" }

def brokenFiles : Files := { nodes := [(["report.xlsx"], .file "no package".toUTF8)] }

theorem answer_allOrNothing_brokenFiles :
    Request.ofArguments replacingArguments = .run replacingOptions ∧
      (∀ path place, replacingOptions.markdown = some path → brokenFiles.MayHoldFile path place →
        ¬brokenFiles.MayHoldFile (Job.outputPath replacingOptions.output) place) ∧
      (answer (AnyLanguage.all true) replacingArguments brokenFiles).code = 1 ∧
      (answer (AnyLanguage.all true) replacingArguments brokenFiles).files = brokenFiles := by
  have hrun : Request.ofArguments replacingArguments = .run replacingOptions := by decide
  have hworkbook : brokenFiles.locate "report.xlsx" = .ok ["report.xlsx"] :=
    Files.locate_name (by decide) (by decide +kernel) (by decide +kernel)
  have hpreview : brokenFiles.locate "report.md" = .ok ["report.md"] :=
    Files.locate_name (by decide) (by decide +kernel) (by decide +kernel)
  have hapart : ∀ path place, replacingOptions.markdown = some path →
      brokenFiles.MayHoldFile path place →
        ¬brokenFiles.MayHoldFile (Job.outputPath replacingOptions.output) place := by
    rintro _ place ⟨⟩ h h'
    have hplace := Except.ok.inj (hpreview.symm.trans h.leads)
    have hplace' := Except.ok.inj (hworkbook.symm.trans h'.leads)
    exact absurd (hplace.trans hplace'.symm) (by decide)
  have hget : brokenFiles.get "report.xlsx" = .ok (.file "no package".toUTF8) := by
    unfold Files.get
    rw [hworkbook]
    rfl
  have hchecked : Job.checkTemplate brokenFiles "report.xlsx" = .ok () := by
    unfold Job.checkTemplate
    rw [if_neg (by decide), hget]
  have hopened : openedTemplate brokenFiles "report.xlsx" =
      .error (.template "report.xlsx" Xlsx.unreadable) := by
    unfold openedTemplate Files.read
    rw [hget]
    rfl
  have hfails : rendered (AnyLanguage.all true) replacingOptions brokenFiles =
      .error (.template "report.xlsx" Xlsx.unreadable) := by
    change (Job.checkTemplate brokenFiles "report.xlsx" >>= fun _ =>
      openedTemplate brokenFiles "report.xlsx" >>= fun template =>
        renderedBook template (Settings.registry {} (AnyLanguage.all true))) = _
    rw [hchecked, hopened]
    rfl
  obtain ⟨herror, -⟩ := answer_allOrNothing (AnyLanguage.all true) hrun hapart
  obtain ⟨hcode, hfiles, -⟩ := herror _ hfails
  exact ⟨hrun, hapart, hcode, hfiles⟩

end

end

end CommandLine

end SheetTemplate
