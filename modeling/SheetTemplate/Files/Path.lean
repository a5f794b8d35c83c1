import SheetTemplate.Text.Lowercase

namespace SheetTemplate.Path

def splitSlash : List Char → List (List Char)
  | [] => [[]]
  | c :: rest =>
    if c = '/' then [] :: splitSlash rest
    else
      match splitSlash rest with
      | [] => [[c]]
      | run :: runs => (c :: run) :: runs

def isProper (run : List Char) : Bool := !run.isEmpty && run != ['.']

def fileName? (path : List Char) : Option (List Char) :=
  match ((splitSlash path).filter isProper).getLast? with
  | some name => if name = ['.', '.'] then none else some name
  | none => none

/-- What stands before the last dot of a name and what stands after it, if there is a dot with
something before it. -/
def splitDot? (name : List Char) : Option (List Char × List Char) :=
  let suffix := (name.reverse.takeWhile (· != '.')).reverse
  let stem := (name.reverse.dropWhile (· != '.')).drop 1 |>.reverse
  if suffix.length = name.length || stem.isEmpty then none else some (stem, suffix)

def extension? (path : List Char) : Option (List Char) := do
  let (_, suffix) ← splitDot? (← fileName? path)
  pure suffix

def stem? (path : List Char) : Option (List Char) := do
  let name ← fileName? path
  pure (((splitDot? name).map (·.1)).getD name)

def hasExtension (path : String) (extensions : List String) : Bool :=
  match extension? path.toList with
  | some e => extensions.any (Text.equalsIgnoringCase (String.ofList e))
  | none => false

def join (folder name : String) : String :=
  if folder.isEmpty || folder.endsWith "/" then folder ++ name else folder ++ "/" ++ name

end SheetTemplate.Path
