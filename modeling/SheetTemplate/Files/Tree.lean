import SheetTemplate.Files.Path

namespace SheetTemplate

inductive FileNode where
  | file (contents : ByteArray)
  | folder

/-- Files and folders by their paths from the working folder, in no particular order; the last of
a path counts. The working folder itself is not listed. -/
structure Files where
  nodes : List (List String × FileNode) := []

inductive FileError where
  | notFound
  | notAFolder
  | isAFolder
deriving Repr, DecidableEq

def FileError.message : FileError → String
  | notFound => "No such file or directory (os error 2)"
  | notAFolder => "Not a directory (os error 20)"
  | isAFolder => "Is a directory (os error 21)"

namespace Files

def node? (fs : Files) (path : List String) : Option FileNode :=
  if path.isEmpty then some .folder else fs.nodes.reverse.lookup path

/-- The place above a place. Above the working folder are places that begin with two dots. -/
def above (here : List String) : List String :=
  if here = ["/"] then here
  else if here.isEmpty || here.getLast? = some ".." then here ++ [".."]
  else here.dropLast

def step (fs : Files) (here : List String) (run : String) : Except FileError (List String) :=
  match fs.node? here with
  | none => .error .notFound
  | some (.file _) => .error .notAFolder
  | some .folder =>
    if run = "" ∨ run = "." then .ok here
    else if run = ".." then .ok (above here)
    else .ok (here ++ [run])

def origin (path : String) : List String := if path.startsWith "/" then ["/"] else []

def runs (path : String) : List String := (Path.splitSlash path.toList).map String.ofList

def locate (fs : Files) (path : String) : Except FileError (List String) :=
  if path.isEmpty then .error .notFound else (runs path).foldlM fs.step (origin path)

def get (fs : Files) (path : String) : Except FileError FileNode := do
  match fs.node? (← fs.locate path) with
  | some n => pure n
  | none => throw .notFound

def read (fs : Files) (path : String) : Except FileError ByteArray := do
  match ← fs.get path with
  | .file contents => pure contents
  | .folder => throw .isAFolder

def names (fs : Files) (path : String) : Except FileError (List String) := do
  let here ← fs.locate path
  match fs.node? here with
  | some .folder =>
    pure (fs.nodes.filterMap fun (p, _) =>
      if p.length = here.length + 1 ∧ here.isPrefixOf p then p.getLast? else none).eraseDups
  | some (.file _) => throw .notAFolder
  | none => throw .notFound

def write (fs : Files) (path : String) (contents : ByteArray) : Except FileError Files := do
  let here ← fs.locate path
  match fs.node? here with
  | some .folder => throw .isAFolder
  | _ => pure { nodes := fs.nodes ++ [(here, .file contents)] }

def add (fs : Files) (path : List String) (n : FileNode) : Files :=
  let folders := (List.range path.length).filterMap fun i =>
    if i = 0 || (fs.node? (path.take i)).isSome then none else some (path.take i, FileNode.folder)
  { nodes := fs.nodes ++ folders ++ [(path, n)] }

end Files

end SheetTemplate
