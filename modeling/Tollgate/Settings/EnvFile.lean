import Tollgate.Text.Blank

namespace Tollgate.EnvFile

structure Statement where
  key : Text
  value : Option Text

/-- Lines end with a line feed alone, and a byte order mark at the start is dropped. -/
def normalize : Text → Text
  | [] => []
  | c :: s => lineEnds (if c.val = 0xFEFF then s else c :: s)
where
  lineEnds : Text → Text
    | [] => []
    | [c] => if c = '\r' then ['\n'] else [c]
    | c :: d :: s =>
      if c = '\r' then
        if d = '\n' then '\n' :: lineEnds s else '\n' :: lineEnds (d :: s)
      else c :: lineEnds (d :: s)

def isInlineBlank (c : CodePoint) : Bool := c.isBlank && c ≠ '\n' && c ≠ '\r'

def skipBlanks (s : Text) : Text := s.dropWhile isInlineBlank

def skipExport (s : Text) : Text :=
  let word := Text.lit "export"
  let rest := s.drop word.length
  if s.startsWith word && rest.head?.any isInlineBlank then skipBlanks rest else s

def singleQuote : CodePoint := '\x27'

def doubleQuote : CodePoint := '"'

def backslash : CodePoint := '\\'

def key (s : Text) : Except Text (Option Text × Text) :=
  match s with
  | [] => .error s
  | c :: rest =>
    if c = '#' then .ok (none, s)
    else if c = singleQuote then
      match cutFirst? singleQuote rest with
      | some (name, after) => if name.isEmpty then .error s else .ok (some name, after)
      | none => .error s
    else
      let isKey (c : CodePoint) : Bool := c ≠ '=' && c ≠ '#' && !c.isBlank
      let name := s.takeWhile isKey
      if name.isEmpty then .error s else .ok (some name, s.drop name.length)

/-- Cuts at the closing quote. A backslash takes the next code point with it, so a quote that
follows one does not close. -/
def cutQuoted? (quote : CodePoint) : Text → Option (Text × Text)
  | [] => none
  | [c] => if c = quote then some ([], []) else none
  | c :: d :: s =>
    if c = quote then some ([], d :: s)
    else if c = backslash then
      (cutQuoted? quote s).map fun (content, rest) => (c :: d :: content, rest)
    else (cutQuoted? quote (d :: s)).map fun (content, rest) => (c :: content, rest)

def unescape (escape? : CodePoint → Option CodePoint) : Text → Text
  | [] => []
  | [c] => [c]
  | c :: d :: s =>
    if c = backslash then
      match escape? d with
      | some e => e :: unescape escape? s
      | none => c :: unescape escape? (d :: s)
    else c :: unescape escape? (d :: s)

def singleEscape? (c : CodePoint) : Option CodePoint :=
  if c = backslash || c = singleQuote then some c else none

def doubleEscape? (c : CodePoint) : Option CodePoint :=
  if c = backslash || c = singleQuote || c = doubleQuote then some c
  else if c = 'a' then some '\x07'
  else if c = 'b' then some '\x08'
  else if c = 'f' then some '\x0c'
  else if c = 'n' then some '\n'
  else if c = 'r' then some '\r'
  else if c = 't' then some '\t'
  else if c = 'v' then some '\x0b'
  else none

def dropComment : Text → Text
  | [] => []
  | c :: s =>
    if c.isBlank && (s.dropWhile CodePoint.isBlank).head? = some '#' then []
    else c :: dropComment s

def isInLine (c : CodePoint) : Bool := c ≠ '\n' && c ≠ '\r'

def unquoted (s : Text) : Text × Text :=
  let line := s.takeWhile isInLine
  ((dropComment line).trimEnd, s.drop line.length)

def valueAfterEquals (s : Text) : Except Text (Text × Text) :=
  let start := skipBlanks s
  match start with
  | [] => .ok ([], start)
  | c :: rest =>
    if c = singleQuote then
      match cutQuoted? singleQuote rest with
      | some (content, after) => .ok (unescape singleEscape? content, after)
      | none => .error start
    else if c = doubleQuote then
      match cutQuoted? doubleQuote rest with
      | some (content, after) => .ok (unescape doubleEscape? content, after)
      | none => .error start
    else if c = '#' && start.length < s.length then .ok ([], start)
    else .ok (unquoted start)

def value? (s : Text) : Except Text (Option Text × Text) :=
  match skipBlanks s with
  | [] => .ok (none, [])
  | c :: rest =>
    if c = '=' then (valueAfterEquals rest).map fun (value, after) => (some value, after)
    else .ok (none, c :: rest)

def skipComment (s : Text) : Text :=
  let rest := skipBlanks s
  if rest.head? = some '#' then rest.dropWhile isInLine else s

def endOfLine (s : Text) : Except Text Text :=
  match skipBlanks s with
  | [] => .ok []
  | c :: rest => if c = '\n' || c = '\r' then .ok rest else .error s

def readStatement (s : Text) : Except Text (Option Statement × Text) := do
  let (name, rest) ← key (skipExport s)
  let (value, rest) ← value? rest
  let rest ← endOfLine (skipComment rest)
  return (name.map fun key => { key, value }, rest)

def statementsFrom : (fuel : Nat) → Text → List Statement
  | 0, _ => []
  | fuel + 1, s =>
    let start := s.dropWhile CodePoint.isBlank
    if start.isEmpty then []
    else match readStatement start with
      | .ok (statement, rest) => statement.toList ++ statementsFrom fuel rest
      | .error failed => statementsFrom fuel ((failed.dropWhile isInLine).drop 1)

def statements (s : Text) : List Statement := statementsFrom s.length s

def reference? (s : Text) : Option (Text × Text × Nat) :=
  let opening := Text.lit "$\x7b"
  if !s.startsWith opening then none
  else
    let isName (c : CodePoint) : Bool := c ≠ '}' && c ≠ ':'
    let isDefault (c : CodePoint) : Bool := c ≠ '}'
    let rest := s.drop opening.length
    let name := rest.takeWhile isName
    let after := rest.drop name.length
    let mark := Text.lit ":-"
    let (default, after) :=
      if Text.startsWith after mark then
        let default := (after.drop mark.length).takeWhile isDefault
        (default, (after.drop mark.length).drop default.length)
      else ([], after)
    if after.head? = some '}' then some (name, default, s.length - (after.length - 1)) else none

/-- Replaces references; the first `skip` code points belong to one that is already replaced. -/
def expand (lookUp : Text → Option Text) : (skip : Nat) → Text → Text
  | _, [] => []
  | skip + 1, _ :: s => expand lookUp skip s
  | 0, c :: s =>
    match reference? (c :: s) with
    | some (name, default, length) => (lookUp name).getD default ++ expand lookUp (length - 1) s
    | none => c :: expand lookUp 0 s

def referencedNames : Text → List Text
  | [] => []
  | c :: s => ((reference? (c :: s)).map (·.1)).toList ++ referencedNames s

abbrev Bindings := List (Text × Option Text)

def bind (name : Text) (value : Option Text) : Bindings → Bindings
  | [] => [(name, value)]
  | (n, v) :: bindings =>
    if n = name then (n, value) :: bindings else (n, v) :: bind name value bindings

/-- An earlier variable, empty if it has no value; else one of the environment. -/
def lookUp (environment : List (Text × Text)) (bindings : Bindings) (name : Text) : Option Text :=
  match bindings.lookup name with
  | some value => some (value.getD [])
  | none => environment.lookup name

def read (environment : List (Text × Text)) (file : Text) : Bindings :=
  (statements (normalize file)).foldl (fun bindings statement =>
    bind statement.key (statement.value.map (expand (lookUp environment bindings) 0)) bindings) []

end Tollgate.EnvFile
