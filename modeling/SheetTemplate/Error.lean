namespace SheetTemplate

inductive EngineError where
  | wrongCodeFormat
  | unknownLanguage (tag : String)
  | evaluation (language reason : String)
  | binding (language reason : String)
  | extraction (reason : String)
deriving Repr, DecidableEq

def EngineError.message : EngineError → String
  | wrongCodeFormat => "wrong code format: expected `[lang]expression`"
  | unknownLanguage tag => "unknown language: " ++ tag
  | evaluation language reason => language ++ " evaluation error: " ++ reason
  | binding language reason => language ++ " failed to bind data: " ++ reason
  | extraction reason => "cannot extract value: " ++ reason

inductive SheetError where
  | engine (error : EngineError)
  | io (reason : String)
  | xlsxRead (reason : String)
  | xlsxWrite (reason : String)
  | package (reason : String)
  | xml (reason : String)
  | xmlAttribute (reason : String)
  | csv (reason : String)
  | json (reason : String)
  | config (reason : String)
  | unknownSheet (name : String)
  | unknownStyle (id : Nat)
  | invalidRange (range : String)
  | notADirectory (path : String)
deriving Repr, DecidableEq

def SheetError.message : SheetError → String
  | engine e => e.message
  | io reason => "IO error: " ++ reason
  | xlsxRead reason => "XLSX read error: " ++ reason
  | xlsxWrite reason => "XLSX write error: " ++ reason
  | package reason => "XLSX package error: " ++ reason
  | xml reason => "XML error: " ++ reason
  | xmlAttribute reason => "XML attribute error: " ++ reason
  | csv reason => "CSV error: " ++ reason
  | json reason => "JSON error: " ++ reason
  | config reason => "Config error: " ++ reason
  | unknownSheet name => "Unknown sheet: " ++ name
  | unknownStyle id => "Unknown style id: " ++ String.ofList (Nat.toDigits 10 id)
  | invalidRange range => "Invalid range: " ++ range
  | notADirectory path => "Not a directory: " ++ path

def SheetError.cause? : SheetError → Option String
  | io reason | xlsxRead reason | xlsxWrite reason | package reason | xml reason
  | xmlAttribute reason | csv reason | json reason | config reason => some reason
  | _ => none

end SheetTemplate
