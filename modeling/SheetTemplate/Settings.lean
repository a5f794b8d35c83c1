import SheetTemplate.Registry

namespace SheetTemplate

structure Settings where
  aliases : List (String × String) := []
  /-- The languages to keep; all of them if there is no list. -/
  languages : Option (List String) := none
deriving Repr, DecidableEq

namespace Settings

def topic : String := "flowtable_core::config"

def addAliases {β : Type} (r : Registry β) (aliases : List (String × String)) : Registry β :=
  aliases.foldl (fun r (key, target) => r.addAlias key target) r

/-- A registry with the given languages, cut down and extended as the settings say. -/
def registry {β : Type} [Language β] (s : Settings) (languages : List β) : Registry β :=
  let all := languages.foldl Registry.register Registry.initial
  let kept := (s.languages.map all.retain).getD all
  addAliases kept s.aliases

def registryLines {β : Type} [Language β] (s : Settings) (languages : List β) : List LogEntry :=
  languages.map Registry.registerLine ++
    [⟨.debug, topic, "backends: " ++ String.intercalate ", " (s.registry languages).names⟩]

end Settings

end SheetTemplate
