import SheetTemplate.CommandLine.Job
import SheetTemplate.Languages

namespace SheetTemplate.Program

open CommandLine

def diskPath (place : List String) : String :=
  match place with
  | [] => "."
  | "/" :: names => "/" ++ String.intercalate "/" names
  | names => String.intercalate "/" names

def see (fs : Files) (place : List String) : IO Files := do
  try
    let real ← IO.FS.realPath (diskPath place)
    let node ← match (← real.metadata).type with
      | .file => FileNode.file <$> IO.FS.readBinFile real
      | _ => pure .folder
    pure { nodes := fs.nodes ++ [(place, node)] }
  catch _ => pure fs

def follow (fs : Files) (path : String) : IO Files := do
  let start ← if path.startsWith "/" then see fs ["/"] else pure fs
  let (fs, _) ← (Files.runs path).foldlM (fun (fs, here) run => do
    match here.bind fun h => (fs.step h run).toOption with
    | some next => pure (← if next.isEmpty then pure fs else see fs next, some next)
    | none => pure (fs, none)) (start, some (Files.origin path))
  pure fs

def followFolder (fs : Files) (path : String) : IO Files := do
  let fs ← follow fs path
  match fs.locate path with
  | .error _ => pure fs
  | .ok place =>
    try
      let real ← IO.FS.realPath (diskPath place)
      let names := (← real.readDir).map fun e => e.fileName
      names.foldlM (fun fs name => see fs (place ++ [name])) fs
    catch _ => pure fs

def filesOf : Request → IO Files
  | .run o => do
    let fs ← (o.template :: Job.outputPath o.output :: o.config.toList ++ o.markdown.toList).foldlM
      follow {}
    o.data.toList.foldlM followFolder fs
  | _ => pure {}

def writeNew (before after : Files) : IO Unit :=
  (after.nodes.drop before.nodes.length).forM fun (place, node) =>
    match node with
    | .file contents => IO.FS.writeBinFile (diskPath place) contents
    | .folder => pure ()

end SheetTemplate.Program

open SheetTemplate in
def main (args : List String) : IO UInt32 := do
  let fs ← Program.filesOf (CommandLine.Request.ofArguments args)
  let outcome := CommandLine.answer (AnyLanguage.all false) args fs
  IO.print outcome.stdout
  IO.eprint outcome.stderr
  Program.writeNew fs outcome.files
  pure (.ofNat outcome.code)
