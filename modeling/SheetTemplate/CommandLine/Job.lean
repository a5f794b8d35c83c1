import SheetTemplate.CommandLine.Arguments
import SheetTemplate.Loader
import SheetTemplate.Preview
import SheetTemplate.Render.Book
import SheetTemplate.Settings.Reading
import SheetTemplate.Xlsx.Writing

namespace SheetTemplate.CommandLine

inductive Failure where
  | notAWorkbook (path : String)
  | noTemplate (path : String) (error : FileError)
  | notAFile (path : String)
  | settings (path : String) (error : SheetError)
  | data (path : String) (error : SheetError)
  | binding (error : EngineError)
  | template (path : String) (error : SheetError)
  | rendering (error : SheetError)
  | saving (path : String) (error : SheetError)
  | preview (path : String) (error : FileError)
deriving Repr, DecidableEq

def withCause (e : SheetError) : String :=
  e.message ++ (e.cause?.map (": " ++ ·)).getD ""

def Failure.message : Failure → String
  | notAWorkbook path => "only .xlsx templates are supported: " ++ path
  | noTemplate path e => "cannot read template " ++ path ++ ": " ++ e.message
  | notAFile path => "template is not a regular file: " ++ path
  | settings path e => "failed to load config " ++ path ++ ": " ++ withCause e
  | data path e => "failed to load data from " ++ path ++ ": " ++ withCause e
  | binding e => "failed to bind data into backends: " ++ e.message
  | template path e => "failed to open template " ++ path ++ ": " ++ withCause e
  | rendering e => "render failed: " ++ withCause e
  | saving path e => "failed to save " ++ path ++ ": " ++ withCause e
  | preview path e => "failed to write markdown " ++ path ++ ": " ++ e.message

structure Desk where
  files : Files
  journal : Journal := #[]

abbrev Job := ExceptT Failure (StateM Desk)

namespace Job

def topic : String := "flowtable"

def tell (lines : List LogEntry) : Job Unit :=
  modify fun d => { d with journal := d.journal ++ lines.toArray }

def inform (message : String) : Job Unit := tell [⟨.info, topic, message⟩]

def files : Job Files := do pure (← get).files

def orFail {ε α : Type} (failure : ε → Failure) (x : Except ε α) : Job α :=
  match x with
  | .ok a => pure a
  | .error e => throw (failure e)

def logged {α : Type} (failure : SheetError → Failure) (x : Logged SheetError α) : Job α := do
  let d ← get
  let (result, journal) := x.run.run d.journal
  set { d with journal }
  orFail failure result

def isWorkbookPath (path : String) : Bool := Path.hasExtension path ["xlsx"]

/-- The path that the workbook is written to: one that does not name a workbook gets the
extension. -/
def outputPath (path : String) : String := if isWorkbookPath path then path else path ++ ".xlsx"

def checkTemplate (fs : Files) (path : String) : Except Failure Unit :=
  if !isWorkbookPath path then .error (.notAWorkbook path)
  else
    match fs.get path with
    | .error e => .error (.noTemplate path e)
    | .ok .folder => .error (.notAFile path)
    | .ok (.file _) => .ok ()

section

variable {β : Type} [Language β]

def startRegistry (languages : List β) (config : Option String) : Job (Registry β) := do
  let settings ← match config with
    | some path => orFail (.settings path) (Settings.load (← files) path)
    | none => pure {}
  tell (settings.registryLines languages)
  pure (settings.registry languages)

def bindData (r : Registry β) (folder : String) : Job (Registry β) := do
  let data ← logged (.data folder) ((Loader.folder Loader.defaultParts).load (← files) folder)
  inform ("loaded " ++ Number.natText data.length ++ " data files from " ++ folder)
  tell (Registry.bindLines data r)
  let (result, r) := r.bind data
  orFail .binding result
  pure r

def openTemplate (path : String) : Job Workbook := do
  let contents ← orFail (fun e => .template path (.xlsxRead e.message)) ((← files).read path)
  logged (.template path) (Xlsx.read contents)

def summary (s : RenderStats) : String :=
  "rendered " ++ Number.natText s.formulas ++ " formulas over " ++ Number.natText s.sheets ++
    " sheets (+" ++ Number.natText s.rowsInserted ++ " rows, +" ++ Number.natText s.colsInserted ++
    " columns)"

def renderBook (book : Workbook) (r : Registry β) : Job Workbook := do
  let (result, rendering) := render book r
  tell rendering.journal.toList
  orFail .rendering result
  inform (summary rendering.stats)
  pure rendering.book

end

/-- Writes the workbook. The file is made, without contents, before the names of the sheets are
looked at. -/
def saveBook (book : Workbook) (path : String) : Job Unit := do
  let failure := Failure.saving path
  let stored ← orFail failure (Xlsx.store book)
  let unwritable (e : FileError) : Failure := failure (.xlsxWrite e.message)
  let put (contents : ByteArray) : Job Unit := do
    let d ← get
    set { d with files := ← orFail unwritable (d.files.write path contents) }
  put .empty
  orFail failure stored.checkNames
  put stored.bytes

def savePreview (book : Workbook) (path : String) : Job Unit := do
  let d ← get
  let written ← orFail (.preview path) (d.files.write path (Preview.text book).toUTF8)
  set { d with files := written }
  inform ("exported preview to " ++ path)

def run {β : Type} [Language β] (languages : List β) (o : Options) : Job Unit := do
  orFail id (checkTemplate (← files) o.template)
  let registry ← startRegistry languages o.config
  let registry ← match o.data with
    | some folder => bindData registry folder
    | none => pure registry
  let book ← openTemplate o.template
  let book ← renderBook book registry
  saveBook book (outputPath o.output)
  match o.markdown with
  | some path => savePreview book path
  | none => pure ()
  inform "[finish]"

end Job

structure Outcome where
  code : Nat
  stdout : String
  stderr : String
  files : Files

def shownLevel : Nat → Level
  | 0 => .warn
  | 1 => .info
  | 2 => .debug
  | _ => .trace

def lineText (e : LogEntry) : String :=
  match e.level with
  | .info => e.message ++ "\n"
  | level => "[" ++ level.label ++ "] " ++ e.topic ++ ": " ++ e.message ++ "\n"

def shown (verbosity : Nat) (j : Journal) : String :=
  String.join ((j.toList.filter fun e => e.level.rank ≤ (shownLevel verbosity).rank).map lineText)

def answer {β : Type} [Language β] (languages : List β) (args : List String) (fs : Files) :
    Outcome :=
  match Request.ofArguments args with
  | .help => ⟨0, helpText, "", fs⟩
  | .version => ⟨0, versionText, "", fs⟩
  | .refused r => ⟨2, "", r.text, fs⟩
  | .run o =>
    let (result, desk) := StateT.run (ExceptT.run (Job.run languages o)) { files := fs }
    let lines := shown o.verbosity desk.journal
    match result with
    | .ok _ => ⟨0, "", lines, desk.files⟩
    | .error e => ⟨1, "", lines ++ "Error: " ++ e.message ++ "\n", desk.files⟩

end SheetTemplate.CommandLine
