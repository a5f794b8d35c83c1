namespace SheetTemplate.CommandLine

inductive Setting where
  | template
  | data
  | output
  | config
  | markdown
deriving Repr, DecidableEq

def Setting.all : List Setting := [.template, .data, .output, .config, .markdown]

def Setting.name : Setting → String
  | template => "template"
  | data => "data"
  | output => "output"
  | config => "config"
  | markdown => "markdown"

def Setting.usage (s : Setting) : String := "--" ++ s.name ++ " <" ++ s.name.toUpper ++ ">"

def Setting.named? (name : String) : Option Setting := Setting.all.find? fun s => s.name == name

structure Options where
  template : String
  data : Option String := none
  output : String := "output.xlsx"
  config : Option String := none
  markdown : Option String := none
  verbosity : Nat := 0
deriving Repr, DecidableEq

inductive Refusal where
  | noTemplate
  | noValue (s : Setting)
  | repeated (s : Setting)
  | unexpected (argument : String)
deriving Repr, DecidableEq

inductive Request where
  | run (o : Options)
  | help
  | version
  | refused (r : Refusal)
deriving Repr, DecidableEq

structure Draft where
  given : List (Setting × String) := []
  verbosity : Nat := 0
deriving Repr, DecidableEq

def Draft.finish (d : Draft) : Request :=
  match d.given.lookup .template with
  | none => .refused .noTemplate
  | some template =>
    .run {
      template
      data := d.given.lookup .data
      output := (d.given.lookup .output).getD "output.xlsx"
      config := d.given.lookup .config
      markdown := d.given.lookup .markdown
      verbosity := d.verbosity }

def Draft.add (d : Draft) (s : Setting) (value : String) : Except Refusal Draft :=
  if (d.given.lookup s).isSome then .error (.repeated s)
  else if value.isEmpty then .error (.noValue s)
  else .ok { d with given := d.given ++ [(s, value)] }

def isValue (a : String) : Bool := a == "-" || a.toList.head? != some '-'

def readFlags (d : Draft) : List Char → Except Request Draft
  | [] => .ok d
  | 'v' :: rest => readFlags { d with verbosity := d.verbosity + 1 } rest
  | 'h' :: _ => .error .help
  | 'V' :: _ => .error .version
  | c :: _ => .error (.refused (.unexpected (String.ofList ['-', c])))

def splitLong (body : List Char) : String × Option String :=
  let name := body.takeWhile (· != '=')
  match body.drop name.length with
  | _ :: value => (String.ofList name, some (String.ofList value))
  | [] => (String.ofList name, none)

def readLongFlag (argument name : String) (d : Draft) : Except Request Draft :=
  match name with
  | "verbose" => .ok { d with verbosity := d.verbosity + 1 }
  | "help" => .error .help
  | "version" => .error .version
  | _ => .error (.refused (.unexpected argument))

def readArguments (d : Draft) : List String → Request
  | [] => d.finish
  | a :: rest =>
    match a.toList with
    | ['-', '-'] =>
      match rest with
      | [] => d.finish
      | x :: _ => .refused (.unexpected x)
    | '-' :: '-' :: body =>
      match splitLong body with
      | (name, value?) =>
        match Setting.named? name, value? with
        | some s, some value =>
          match d.add s value with
          | .ok d => readArguments d rest
          | .error r => .refused r
        | some s, none =>
          match rest with
          | value :: rest =>
            if isValue value then
              match d.add s value with
              | .ok d => readArguments d rest
              | .error r => .refused r
            else .refused (.noValue s)
          | [] => .refused (.noValue s)
        | none, some _ => .refused (.unexpected a)
        | none, none =>
          match readLongFlag a name d with
          | .ok d => readArguments d rest
          | .error q => q
    | '-' :: c :: flags =>
      match readFlags d (c :: flags) with
      | .ok d => readArguments d rest
      | .error q => q
    | _ => .refused (.unexpected a)

def Request.ofArguments (args : List String) : Request := readArguments {} args

def usage : String := "Usage: flowtable [OPTIONS] --template <TEMPLATE>"

def versionText : String := "flowtable 0.1.0\n"

def unlines (lines : List String) : String := String.join (lines.map (· ++ "\n"))

def helpText : String :=
  unlines
    ["Render an XLSX template whose cells hold \x7b\x7b...\x7d\x7d script formulas.",
     "",
     usage,
     "",
     "Options:",
     "      --template <TEMPLATE>  Template workbook (.xlsx)",
     "      --data <DATA>          Directory of data files (csv, json, xlsx, sqlite) bound by file stem",
     "      --output <OUTPUT>      Rendered workbook; `.xlsx` is appended when missing [default: output.xlsx]",
     "      --config <CONFIG>      TOML file restricting backends and adding language aliases",
     "      --markdown <MARKDOWN>  Also write a markdown preview of the rendered workbook",
     "  -v, --verbose...           More logging (-v info, -vv debug, -vvv trace)",
     "  -h, --help                 Print help",
     "  -V, --version              Print version"]

def Refusal.message : Refusal → String
  | noTemplate =>
    "the following required arguments were not provided:\n  " ++ Setting.usage .template
  | noValue s => "a value is required for '" ++ s.usage ++ "' but none was supplied"
  | repeated s => "the argument '" ++ s.usage ++ "' cannot be used multiple times"
  | unexpected a => "unexpected argument '" ++ a ++ "' found"

def Refusal.text (r : Refusal) : String :=
  unlines ["error: " ++ r.message, "", usage, "", "For more information, try '--help'."]

end SheetTemplate.CommandLine
