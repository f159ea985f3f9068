/-
  OvsdbModels/Toml/Statement.lean
  ===============================
  The statements of a configuration file.

  The file is written in TOML 1.1, of which a configuration uses texts, dates and times, and tables
  of texts.  A document with a value of any other kind is no configuration, so such values are not
  told apart here: a document that uses them has no statements.
-/
import OvsdbModels.Text.Letter
import OvsdbModels.Toml.Moment

namespace OvsdbModels.Toml

/-- A path of keys; all but the last name tables. -/
abbrev KeyPath := List String

inductive Setting where
  | text (s : String)
  | moment (m : Moment)
  | table (entries : List (KeyPath × String))
  deriving DecidableEq, Repr

inductive Statement where
  /-- The table that the following assignments belong to. -/
  | header (path : KeyPath)
  | assign (path : KeyPath) (value : Setting)
  deriving DecidableEq, Repr

/-- The entries of a value that is taken for a table: a moment is a table of one entry, its text. -/
def Setting.entries? : Setting → Option (List (KeyPath × String))
  | text _ => none
  | moment m => some [([Moment.entryName], m.text)]
  | table entries => some entries

/-! ### Blanks, comments and line ends -/

def isBlank (c : Char) : Bool := c = ' ' || c = '\t'

def skipBlanks (s : List Char) : List Char := s.dropWhile isBlank

/-- Characters that may stand for themselves: no control characters but the tab. -/
def isPlain (c : Char) : Bool := c = '\t' || (decide (0x20 ≤ c.toNat) && c.toNat ≠ 0x7f)

/-- A text behind its comment, if it begins with one. -/
def skipComment : List Char → List Char
  | '#' :: rest => rest.dropWhile isPlain
  | s => s

/-- A text behind its line end, which it has to begin with. -/
def newline? : List Char → Option (List Char)
  | '\n' :: rest => some rest
  | '\r' :: '\n' :: rest => some rest
  | _ => none

/-- A text behind the end of its line: blanks, a comment, and a line end or the end of the text. -/
def lineEnd? (s : List Char) : Option (List Char) :=
  match skipComment (skipBlanks s) with
  | [] => some []
  | rest => newline? rest

/-- A text without the blanks, line ends and comments at its front, of which there are at most
`fuel` lines. -/
def skipLinesWithin : Nat → List Char → List Char
  | 0, s => s
  | fuel + 1, s =>
    let rest := skipComment (skipBlanks s)
    match newline? rest with
    | some after => skipLinesWithin fuel after
    | none => rest

/-- A text without the blanks, line ends and comments at its front. -/
def skipLines (s : List Char) : List Char := skipLinesWithin (s.length + 1) s

/-! ### Texts -/

/-- The character whose number the first `count` characters of a text give. -/
def numbered (count : Nat) (s : List Char) : Option (Char × List Char) := do
  let digits := s.take count
  if digits.length < count then none
  let n ← Text.hexNumber? digits
  if n.isValidChar then some (Char.ofNat n, s.drop count) else none

def escape : List Char → Option (Char × List Char)
  | 'b' :: rest => some ('\x08', rest)
  | 't' :: rest => some ('\t', rest)
  | 'n' :: rest => some ('\n', rest)
  | 'f' :: rest => some ('\x0c', rest)
  | 'r' :: rest => some ('\r', rest)
  | 'e' :: rest => some ('\x1b', rest)
  | '"' :: rest => some ('"', rest)
  | '\\' :: rest => some ('\\', rest)
  | 'x' :: rest => numbered 2 rest
  | 'u' :: rest => numbered 4 rest
  | 'U' :: rest => numbered 8 rest
  | _ => none

/-- A text between double quotes, behind the first of them. -/
def basicText : Nat → List Char → List Char → Option (String × List Char)
  | 0, _, _ => none
  | fuel + 1, done, s =>
    match s with
    | [] => none
    | '"' :: rest => some (String.ofList done.reverse, rest)
    | '\\' :: rest => do
      let (c, rest) ← escape rest
      basicText fuel (c :: done) rest
    | c :: rest => if isPlain c then basicText fuel (c :: done) rest else none

/-- A text between single quotes, behind the first of them. -/
def literalText : List Char → List Char → Option (String × List Char)
  | _, [] => none
  | done, c :: rest =>
    if c = '\'' then some (String.ofList done.reverse, rest)
    else if isPlain c then literalText (c :: done) rest
    else none

/-- The end of a text of several lines: up to two quotes before the closing three belong to it.  The
text begins behind three quotes. -/
def closeLines (quote : Char) (done : List Char) (s : List Char) : Option (String × List Char) :=
  let extra := (s.take 2).takeWhile (· = quote)
  some (String.ofList (done.reverse ++ extra), s.drop extra.length)

/-- A text behind the line end at its front, if there is one. -/
def dropNewline (s : List Char) : List Char := (newline? s).getD s

/-- A text without the blanks and line ends at its front. -/
def skipBreaks : Nat → List Char → List Char
  | 0, s => s
  | fuel + 1, s =>
    match newline? (skipBlanks s) with
    | some after => skipBreaks fuel after
    | none => skipBlanks s

/-- What follows a backslash at the end of a line, behind all blanks and line ends. -/
def continued? (s : List Char) : Option (List Char) :=
  (newline? (skipBlanks s)).map (skipBreaks s.length)

/-- A text of several lines between three double quotes, behind the first three. -/
def basicLines : Nat → List Char → List Char → Option (String × List Char)
  | 0, _, _ => none
  | fuel + 1, done, s =>
    match s with
    | [] => none
    | '"' :: '"' :: '"' :: rest => closeLines '"' done rest
    | '\r' :: '\n' :: rest => basicLines fuel ('\n' :: '\r' :: done) rest
    | '\n' :: rest => basicLines fuel ('\n' :: done) rest
    | '\\' :: rest =>
      match continued? rest with
      | some after => basicLines fuel done after
      | none => do
        let (c, rest) ← escape rest
        basicLines fuel (c :: done) rest
    | c :: rest => if isPlain c then basicLines fuel (c :: done) rest else none

/-- A text of several lines between three single quotes, behind the first three. -/
def literalLines : Nat → List Char → List Char → Option (String × List Char)
  | 0, _, _ => none
  | fuel + 1, done, s =>
    match s with
    | [] => none
    | '\'' :: '\'' :: '\'' :: rest => closeLines '\'' done rest
    | '\r' :: '\n' :: rest => literalLines fuel ('\n' :: '\r' :: done) rest
    | '\n' :: rest => literalLines fuel ('\n' :: done) rest
    | c :: rest => if isPlain c then literalLines fuel (c :: done) rest else none

/-- A text in any of its four written forms. -/
def quotedText (s : List Char) : Option (String × List Char) :=
  match s with
  | '"' :: '"' :: '"' :: rest => basicLines (rest.length + 1) [] (dropNewline rest)
  | '"' :: rest => basicText (rest.length + 1) [] rest
  | '\'' :: '\'' :: '\'' :: rest => literalLines (rest.length + 1) [] (dropNewline rest)
  | '\'' :: rest => literalText [] rest
  | _ => none

/-! ### Keys -/

def isBareKeyChar (c : Char) : Bool :=
  c.isAlphanum || c = '_' || c = '-'

def key (s : List Char) : Option (String × List Char) :=
  match s with
  | '"' :: '"' :: '"' :: _ => none
  | '\'' :: '\'' :: '\'' :: _ => none
  | '"' :: rest => basicText (rest.length + 1) [] rest
  | '\'' :: rest => literalText [] rest
  | s =>
    match s.takeWhile isBareKeyChar with
    | [] => none
    | name => some (String.ofList name, s.dropWhile isBareKeyChar)

/-- Keys with points between them, and the blanks behind them. -/
def keyPath : Nat → List Char → Option (KeyPath × List Char)
  | 0, _ => none
  | fuel + 1, s => do
    let (name, rest) ← key s
    match skipBlanks rest with
    | '.' :: after => do
      let (path, rest) ← keyPath fuel (skipBlanks after)
      some (name :: path, rest)
    | rest => some ([name], rest)

/-- Keys, an equals sign, and what `skip` passes over in front of it and behind it. -/
def assigned (skip : List Char → List Char) (s : List Char) : Option (KeyPath × List Char) := do
  let (path, rest) ← keyPath (s.length + 1) s
  match skip rest with
  | '=' :: after => some (path, skip after)
  | _ => none

/-! ### Statements -/

/-- The entries of a table in braces up to the closing brace; a comma may follow the last.  Lines
may end everywhere but inside a key or a text. -/
def tableEntries :
    Nat → List (KeyPath × String) → List Char → Option (List (KeyPath × String) × List Char)
  | 0, _, _ => none
  | fuel + 1, done, s =>
    match skipLines s with
    | '\x7d' :: rest => some (done.reverse, rest)
    | s => do
      let (path, rest) ← assigned skipLines s
      let (value, rest) ← quotedText rest
      let done := (path, value) :: done
      match skipLines rest with
      | '\x7d' :: rest => some (done.reverse, rest)
      | ',' :: rest => tableEntries fuel done rest
      | _ => none

def setting (s : List Char) : Option (Setting × List Char) :=
  match s with
  | '\x7b' :: rest => do
    let (entries, rest) ← tableEntries (rest.length + 1) [] rest
    some (.table entries, rest)
  | c :: rest =>
    if c.isDigit then (momentIn (c :: rest)).map fun (m, rest) => (.moment m, rest)
    else (quotedText (c :: rest)).map fun (text, rest) => (.text text, rest)
  | [] => none

def statement (s : List Char) : Option (Statement × List Char) :=
  match s with
  | '[' :: rest => do
    let (path, rest) ← keyPath (rest.length + 1) (skipBlanks rest)
    match rest with
    | ']' :: rest => some (.header path, rest)
    | _ => none
  | s => do
    let (path, rest) ← assigned skipBlanks s
    let (value, rest) ← setting rest
    some (.assign path value, rest)

def statementsOf : Nat → List Statement → List Char → Option (List Statement)
  | 0, _, _ => none
  | fuel + 1, done, s =>
    match skipLines s with
    | [] => some done.reverse
    | s => do
      let (first, rest) ← statement s
      let rest ← lineEnd? rest
      statementsOf fuel (first :: done) rest

/-- A text without the byte order mark at its front. -/
def dropMark : List Char → List Char
  | '\ufeff' :: rest => rest
  | s => s

def statements? (content : String) : Option (List Statement) :=
  let s := dropMark content.toList
  statementsOf (s.length + 1) [] s

end OvsdbModels.Toml
