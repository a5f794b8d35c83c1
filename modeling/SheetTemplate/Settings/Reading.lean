import SheetTemplate.Files.Tree
import SheetTemplate.Number.Reading
import SheetTemplate.Settings

namespace SheetTemplate.Settings

def isBlank (c : Char) : Bool := c == ' ' || c == '\t'

def skipBlanks (s : List Char) : List Char := s.dropWhile isBlank

def isAllowed (c : Char) : Bool := (32 ≤ c.toNat && c.toNat != 127) || c == '\t'

def lineBreak? : List Char → Option (List Char)
  | '\n' :: s => some s
  | '\r' :: '\n' :: s => some s
  | _ => none

def skipComment (s : List Char) : List Char :=
  match s with
  | '#' :: rest => rest.dropWhile isAllowed
  | _ => s

def endOfLine? (s : List Char) : Option (List Char) :=
  match skipComment (skipBlanks s) with
  | [] => some []
  | rest => lineBreak? rest

def skipLines : Nat → List Char → List Char
  | 0, s => s
  | fuel + 1, s =>
    match lineBreak? (skipComment (skipBlanks s)) with
    | some rest => skipLines fuel rest
    | none => skipBlanks s

def scalar? (digits : List Char) : Option Char := do
  let n ← Number.readHex? digits
  if h : n.isValidChar then some (Char.ofNatAux n h) else none

def escaped? : List Char → Option (Char × List Char)
  | 'b' :: s => some ('\x08', s)
  | 't' :: s => some ('\t', s)
  | 'n' :: s => some ('\n', s)
  | 'f' :: s => some ('\x0c', s)
  | 'r' :: s => some ('\r', s)
  | '"' :: s => some ('"', s)
  | '\\' :: s => some ('\\', s)
  | 'u' :: s => if s.length < 4 then none else (scalar? (s.take 4)).map (·, s.drop 4)
  | 'U' :: s => if s.length < 8 then none else (scalar? (s.take 8)).map (·, s.drop 8)
  | _ => none

def restOfLine? (quote : Char) : Nat → List Char → Option (List Char × List Char)
  | 0, _ => none
  | _ + 1, [] => none
  | fuel + 1, c :: s =>
    if c = quote then some ([], s)
    else if c = '\\' && quote = '"' then do
      let (c, s) ← escaped? s
      let (t, s) ← restOfLine? quote fuel s
      pure (c :: t, s)
    else if isAllowed c then (restOfLine? quote fuel s).map fun (t, s) => (c :: t, s)
    else none

def continuation? (s : List Char) : Option (List Char) :=
  (lineBreak? (skipBlanks s)).map fun rest => rest.dropWhile fun c => isBlank c || c == '\n' || c == '\r'

/-- The rest of a text of several lines, up to three times `quote`; up to two more belong to the
text. -/
def restOfLines? (quote : Char) : Nat → List Char → Option (List Char × List Char)
  | 0, _ => none
  | _ + 1, [] => none
  | fuel + 1, c :: s =>
    if c = quote then
      let run := 1 + (s.takeWhile (· == quote)).length
      if 3 ≤ run then
        if run ≤ 5 then some (List.replicate (run - 3) quote, s.drop (run - 1)) else none
      else (restOfLines? quote fuel s).map fun (t, s) => (c :: t, s)
    else if c = '\\' && quote = '"' then
      match continuation? s with
      | some s => restOfLines? quote fuel s
      | none => do
        let (c, s) ← escaped? s
        let (t, s) ← restOfLines? quote fuel s
        pure (c :: t, s)
    else
      match lineBreak? (c :: s) with
      | some s => (restOfLines? quote fuel s).map fun (t, s) => ('\n' :: t, s)
      | none =>
        if isAllowed c then (restOfLines? quote fuel s).map fun (t, s) => (c :: t, s) else none

def text? (s : List Char) : Option (String × List Char) :=
  match s with
  | q :: rest =>
    if q ≠ '"' ∧ q ≠ '\'' then none
    else
      let read :=
        if [q, q].isPrefixOf rest then
          let body := rest.drop 2
          restOfLines? q (s.length + 1) ((lineBreak? body).getD body)
        else restOfLine? q (s.length + 1) rest
      read.map fun (t, s) => (String.ofList t, s)
  | [] => none

def isBare (c : Char) : Bool := c.isAlphanum || c == '_' || c == '-'

def simpleKey? (s : List Char) : Option (String × List Char) :=
  match s with
  | q :: rest =>
    if q = '"' || q = '\'' then
      (restOfLine? q (s.length + 1) rest).map fun (t, s) => (String.ofList t, s)
    else if isBare q then some (String.ofList (s.takeWhile isBare), s.dropWhile isBare)
    else none
  | [] => none

def keys? : Nat → List Char → Option (List String × List Char)
  | 0, _ => none
  | fuel + 1, s => do
    let (k, s) ← simpleKey? s
    match skipBlanks s with
    | '.' :: s => do
      let (ks, s) ← keys? fuel (skipBlanks s)
      pure (k :: ks, s)
    | s => pure ([k], s)

def key? (s : List Char) : Option (List String × List Char) := keys? (s.length + 1) s

def keyAndEquals? (s : List Char) : Option (List String × List Char) := do
  let (key, s) ← key? s
  match skipBlanks s with
  | '=' :: s => pure (key, skipBlanks s)
  | _ => none

def items? : Nat → List Char → Option (List String × List Char)
  | 0, _ => none
  | fuel + 1, s =>
    match skipLines (s.length + 1) s with
    | ']' :: s => some ([], s)
    | s => do
      let (t, s) ← text? s
      match skipLines (s.length + 1) s with
      | ',' :: s => do
        let (ts, s) ← items? fuel s
        pure (t :: ts, s)
      | ']' :: s => pure ([t], s)
      | _ => none

def list? : List Char → Option (List String × List Char)
  | '[' :: s => items? (s.length + 1) s
  | _ => none

abbrev Pairs := List (String × String)

def insertAlias? (key target : String) : Pairs → Option Pairs
  | [] => some [(key, target)]
  | (a, t) :: rest =>
    if key = a then none
    else if key < a then some ((key, target) :: (a, t) :: rest)
    else (insertAlias? key target rest).map ((a, t) :: ·)

def pairs? : Nat → Pairs → List Char → Option (Pairs × List Char)
  | 0, _, _ => none
  | fuel + 1, acc, s => do
    let ([k], s) ← keyAndEquals? s | none
    let (t, s) ← text? s
    let acc ← insertAlias? k t acc
    match skipBlanks s with
    | ',' :: s => pairs? fuel acc (skipBlanks s)
    | '\x7d' :: s => pure (acc, s)
    | _ => none

def table? : List Char → Option (Pairs × List Char)
  | '\x7b' :: s =>
    match skipBlanks s with
    | '\x7d' :: s => some ([], s)
    | s => pairs? (s.length + 1) [] s
  | _ => none

inductive AliasForm where
  | absent
  | dotted
  | complete
  | open
deriving Repr, DecidableEq

structure Draft where
  settings : Settings := {}
  form : AliasForm := .absent

def Draft.addAlias? (d : Draft) (form : AliasForm) (key target : String) : Option Draft := do
  let aliases ← insertAlias? key target d.settings.aliases
  pure { settings := { d.settings with aliases }, form }

def Draft.assign? (d : Draft) (key : List String) (s : List Char) : Option (Draft × List Char) :=
  match d.form, key with
  | .open, [k] => do
    let (t, s) ← text? s
    pure (← d.addAlias? .open k t, s)
  | .open, _ => none
  | _, ["backends"] =>
    if d.settings.languages.isSome then none
    else (list? s).map fun (l, s) =>
      ({ d with settings := { d.settings with languages := some l } }, s)
  | .absent, ["aliases"] =>
    (table? s).map fun (aliases, s) =>
      ({ settings := { d.settings with aliases }, form := .complete }, s)
  | .absent, ["aliases", k] | .dotted, ["aliases", k] => do
    let (t, s) ← text? s
    pure (← d.addAlias? .dotted k t, s)
  | _, _ => none

def Draft.enter? (d : Draft) (s : List Char) : Option (Draft × List Char) := do
  let (["aliases"], s) ← key? (skipBlanks s) | none
  match skipBlanks s, d.form with
  | ']' :: s, .absent => pure ({ d with form := .open }, s)
  | _, _ => none

def linesFrom? : Nat → Draft → List Char → Option Settings
  | 0, _, _ => none
  | fuel + 1, d, s =>
    match skipLines (s.length + 1) s with
    | [] => some d.settings
    | '#' :: s => do linesFrom? fuel d (← endOfLine? ('#' :: s))
    | '[' :: s => do
      let (d, s) ← d.enter? s
      linesFrom? fuel d (← endOfLine? s)
    | s => do
      let (key, s) ← keyAndEquals? s
      let (d, s) ← d.assign? key s
      linesFrom? fuel d (← endOfLine? s)

def byteOrderMark : Char := '\uFEFF'

def ofChars? (s : List Char) : Option Settings :=
  let s := if s.head? = some byteOrderMark then s.drop 1 else s
  linesFrom? (s.length + 1) {} s

def ofText (s : String) : Except SheetError Settings :=
  match ofChars? s.toList with
  | some settings => .ok settings
  | none => .error (.config "unreadable settings")

def load (fs : Files) (path : String) : Except SheetError Settings :=
  match fs.read path with
  | .error e => .error (.io e.message)
  | .ok b =>
    match String.fromUTF8? b with
    | some s => ofText s
    | none => .error (.io "stream did not contain valid UTF-8")

end SheetTemplate.Settings
