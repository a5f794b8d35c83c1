namespace SheetTemplate

inductive Level where
  | error
  | warn
  | info
  | debug
  | trace
deriving Repr, DecidableEq

def Level.rank : Level → Nat
  | .error => 1
  | .warn => 2
  | .info => 3
  | .debug => 4
  | .trace => 5

def Level.label : Level → String
  | .error => "ERROR"
  | .warn => "WARN"
  | .info => "INFO"
  | .debug => "DEBUG"
  | .trace => "TRACE"

structure LogEntry where
  level : Level
  topic : String
  message : String
deriving Repr, DecidableEq

abbrev Journal := Array LogEntry

abbrev Logged (ε : Type) := ExceptT ε (StateM Journal)

def note {ε : Type} (level : Level) (topic message : String) : Logged ε Unit :=
  modify (·.push ⟨level, topic, message⟩)

end SheetTemplate
