import Std.Data.TreeMap
import SheetTemplate.Data.Json
import SheetTemplate.Formula.Basic
import SheetTemplate.Formula.Tag
import SheetTemplate.Grid
import SheetTemplate.Journal

namespace SheetTemplate

/-- What evaluates the code of one language. It may change while it binds data or runs code. -/
class Language (β : Type) where
  name : β → String
  bind : DataMap → β → Except EngineError Unit × β
  evaluate : String → Direction → FormatSpec → β → Except EngineError Grid × β

structure Registry (β : Type) where
  languages : Std.TreeMap String β
  aliases : Std.TreeMap String String

namespace Registry

variable {β : Type}

def defaultAliases : List (String × String) :=
  [("javascript", "js"), ("ecmascript", "js"), ("es", "js"), ("python", "py")]

def initial : Registry β := ⟨{}, .ofList defaultAliases⟩

def register [Language β] (r : Registry β) (b : β) : Registry β :=
  let name := Text.lower (Language.name b)
  { languages := r.languages.insert name b, aliases := r.aliases.insert name name }

def addAlias (r : Registry β) (key target : String) : Registry β :=
  { r with aliases := r.aliases.insert (Text.lower key) (Text.lower target) }

/-- Drops every language that no listed name equals up to the case of ASCII letters. -/
def retain (r : Registry β) (keep : List String) : Registry β :=
  { r with languages := r.languages.filter fun name _ =>
      keep.any (Text.equalsIgnoringCase · name) }

def names (r : Registry β) : List String := r.languages.keys

def resolve? (r : Registry β) (tag : String) : Option String := do
  let name ← r.aliases[Text.lower tag]?
  if name ∈ r.languages then some name else none

def bindEach [Language β] (data : DataMap) :
    List (String × β) → Except EngineError Unit × List (String × β)
  | [] => (.ok (), [])
  | (name, b) :: rest =>
    match Language.bind data b with
    | (.ok _, b') =>
      let (result, rest') := bindEach data rest
      (result, (name, b') :: rest')
    | (.error e, b') => (.error e, (name, b') :: rest)

def bind [Language β] (data : DataMap) (r : Registry β) : Except EngineError Unit × Registry β :=
  let (result, languages) := bindEach data r.languages.toList
  (result, { r with languages := .ofList languages })

def boundNames [Language β] (data : DataMap) : List (String × β) → List String
  | [] => []
  | (name, b) :: rest =>
    match (Language.bind data b).1 with
    | .ok _ => name :: boundNames data rest
    | .error _ => [name]

def evaluate [Language β] (f : Formula) (r : Registry β) : Except EngineError Grid × Registry β :=
  match TaggedCode.ofText f.code with
  | .error e => (.error e, r)
  | .ok code =>
    match r.aliases[code.tag]? with
    | none => (.error (.unknownLanguage code.tag), r)
    | some name =>
      match r.languages[name]? with
      | none => (.error (.unknownLanguage code.tag), r)
      | some b =>
        let (result, b') := Language.evaluate code.body f.direction f.format b
        (result, { r with languages := r.languages.insert name b' })

def topic : String := "flowtable_engine::engine::registry"

def registerLine [Language β] (b : β) : LogEntry :=
  ⟨.debug, topic, "registering backend " ++ Text.lower (Language.name b)⟩

def bindLines [Language β] (data : DataMap) (r : Registry β) : List LogEntry :=
  (boundNames data r.languages.toList).map fun name =>
    ⟨.debug, topic, "binding " ++ toString data.length ++ " variables into " ++ name⟩

end Registry

end SheetTemplate
