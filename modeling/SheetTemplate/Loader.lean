import SheetTemplate.Data.Csv
import SheetTemplate.Data.JsonText
import SheetTemplate.Files.Tree
import SheetTemplate.Xlsx.Tables

namespace SheetTemplate

structure Loader where
  /-- Whether the result is one entry that stands for the whole file. -/
  simple : Bool
  load : Files → String → Logged SheetError DataMap

namespace Loader

def single (value : Json) : DataMap := [("data", value)]

def csv : Loader where
  simple := true
  load fs path :=
    match fs.read path with
    | .error e => throw (.csv e.message)
    | .ok b =>
      match Csv.records? b.data.toList with
      | some records => pure (single (Csv.toData records))
      | none => throw (.csv "invalid UTF-8 in a field")

def json : Loader where
  simple := true
  load fs path :=
    match fs.read path with
    | .error .isAFolder => throw (.json FileError.isAFolder.message)
    | .error e => throw (.io e.message)
    | .ok b =>
      match (String.fromUTF8? b).bind JsonText.ofText? with
      | some value => pure (single value)
      | none => throw (.json "malformed text")

def xlsx : Loader where
  simple := false
  load fs path :=
    match fs.read path with
    | .error e => throw (.xlsxRead e.message)
    | .ok b => liftM (Xlsx.readTables b)

/-- What a file's variables are bound as under its name: the value of a simple loader stands for
itself. -/
def value (loader : Loader) (loaded : DataMap) : Json :=
  match loader.simple, loaded with
  | true, [(_, v)] => v
  | _, m => .obj m

def topic : String := "flowtable_core::storage::loader"

structure Part where
  loader : Loader
  accepts : String → Bool

/-- Adds what the parts make of one file. -/
def loadFile (parts : List Part) (fs : Files) (m : DataMap) (path : String) :
    Logged SheetError DataMap :=
  match Path.stem? path.toList with
  | none => pure m
  | some stem =>
    match parts.find? (·.accepts path) with
    | none => do
      note .debug topic ("no loader for " ++ path)
      pure m
    | some part => do
      let loaded ← part.loader.load fs path
      note .debug topic ("loaded " ++ path ++ " as " ++ String.ofList stem)
      pure (m.insert (String.ofList stem) (part.loader.value loaded))

def filesIn (fs : Files) (path : String) : Except FileError (List String) := do
  let names ← fs.names path
  pure (((names.mergeSort fun a b => a ≤ b).map (Path.join path)).filter fun p =>
    match fs.get p with
    | .ok (.file _) => true
    | _ => false)

def folder (parts : List Part) : Loader where
  simple := false
  load fs path :=
    match fs.get path with
    | .error e => throw (.io e.message)
    | .ok (.file _) => throw (.notADirectory path)
    | .ok .folder =>
      match filesIn fs path with
      | .error e => throw (.io e.message)
      | .ok paths => paths.foldlM (loadFile parts fs) []

def defaultParts : List Part :=
  [⟨xlsx, (Path.hasExtension · ["xlsx"])⟩, ⟨csv, (Path.hasExtension · ["csv"])⟩,
    ⟨json, (Path.hasExtension · ["json"])⟩]

end Loader

end SheetTemplate
