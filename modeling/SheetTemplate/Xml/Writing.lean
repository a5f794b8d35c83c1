namespace SheetTemplate.Xml

def escapeChar : Char → String
  | '&' => "&amp;"
  | '<' => "&lt;"
  | '>' => "&gt;"
  | '"' => "&quot;"
  | c => c.toString

def escape (s : String) : String := String.join (s.toList.map escapeChar)

def escapeValue (s : String) : String :=
  String.join (s.toList.map fun c => if c = '\n' then "&#10;" else escapeChar c)

def attributesText (attributes : List (String × String)) : String :=
  String.join (attributes.map fun (n, v) => " " ++ n ++ "=\"" ++ escapeValue v ++ "\"")

def element (name : String) (attributes : List (String × String)) (inner : List String) : String :=
  let start := "<" ++ name ++ attributesText attributes
  if inner.isEmpty then start ++ "/>" else start ++ ">" ++ String.join inner ++ "</" ++ name ++ ">"

def document (root : String) : String :=
  "<?xml version=\"1.0\" encoding=\"UTF-8\" standalone=\"yes\"?>\n" ++ root

end SheetTemplate.Xml
