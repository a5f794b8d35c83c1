import SheetTemplate.Expression.Cel
import SheetTemplate.Expression.Rhai
import SheetTemplate.Script.Language

namespace SheetTemplate

inductive AnyLanguage where
  | rhai (s : Rhai.Scope)
  | script (r : Script.Realm)
  | cel (s : Cel.Scope)

instance : Language AnyLanguage where
  name
    | .rhai s => Language.name s
    | .script r => Language.name r
    | .cel s => Language.name s
  bind data
    | .rhai s => (Language.bind data s).map id .rhai
    | .script r => (Language.bind data r).map id .script
    | .cel s => (Language.bind data s).map id .cel
  evaluate code direction format
    | .rhai s => (Language.evaluate code direction format s).map id .rhai
    | .script r => (Language.evaluate code direction format r).map id .script
    | .cel s => (Language.evaluate code direction format s).map id .cel

def AnyLanguage.all (withCel : Bool) : List AnyLanguage :=
  [.rhai {}, .script .initial] ++ (if withCel then [.cel {}] else [])

end SheetTemplate
