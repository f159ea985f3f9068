/-
  OvsdbModels/Command/Arguments.lean
  ==================================
  The arguments of the command line.

  Options may stand before and after the other arguments.  A long option has its value behind an
  equals sign or in the next argument; a short one also directly behind its letter, and letters
  without values may be joined.  An option's value does not begin with a dash.  Behind the argument
  `--` nothing is an option.  Every option but a repeatable one may occur once.
-/

namespace OvsdbModels.Command

structure Generate where
  schema : String
  package : Option String := none
  output : Option String := none
  config : Option String := none
  dryRun : Bool := false
  tables : List String := []
  deriving DecidableEq, Repr

inductive Action where
  | generate (options : Generate)
  | check (schema : String)
  | list (schema : String)
  deriving DecidableEq, Repr

inductive Page where
  | overview
  | generate
  | check
  | list
  | help
  deriving DecidableEq, Repr

inductive Request where
  | run (action : Action)
  | help (page : Page)
  | version
  /-- The arguments make no sense. -/
  | misuse
  deriving DecidableEq, Repr

/-! ### Single arguments -/

inductive Shape where
  /-- The end of the options. -/
  | dashes
  /-- A long option, perhaps with a value. -/
  | long (name : String) (value : Option String)
  /-- Letters of short options, perhaps with a value at their end. -/
  | short (letters : List Char)
  | plain (text : String)
  deriving DecidableEq, Repr

/-- The parts of a text before and behind its first equals sign. -/
def splitValue (s : List Char) : String × Option String :=
  match s.dropWhile (· ≠ '=') with
  | _ :: value => (String.ofList (s.takeWhile (· ≠ '=')), some (String.ofList value))
  | [] => (String.ofList s, none)

def shapeOf (argument : String) : Shape :=
  match argument.toList with
  | ['-', '-'] => .dashes
  | '-' :: '-' :: rest =>
    let (name, value) := splitValue rest
    .long name value
  | '-' :: first :: rest => .short (first :: rest)
  | _ => .plain argument

/-- Whether an argument can be the value of the option before it. -/
def isValue (argument : String) : Bool :=
  match shapeOf argument with
  | .plain _ => true
  | _ => false

/-! ### Subcommands -/

inductive OptionName where
  | package
  | output
  | config
  | table
  | dryRun
  | verbose
  | help
  deriving DecidableEq, Repr

def OptionName.hasValue : OptionName → Bool
  | package => true
  | output => true
  | config => true
  | table => true
  | _ => false

/-- The option of a long name; only generation has options of its own. -/
def longOption? (page : Page) (name : String) : Option OptionName :=
  if name = "verbose" then some .verbose
  else if name = "help" then some .help
  else if page = .generate then
    if name = "package" then some .package
    else if name = "output" then some .output
    else if name = "config" then some .config
    else if name = "table" then some .table
    else if name = "dry-run" then some .dryRun
    else none
  else none

def shortOption? (page : Page) (letter : Char) : Option OptionName :=
  if letter = 'v' then some .verbose
  else if letter = 'h' then some .help
  else if page = .generate then
    if letter = 'p' then some .package
    else if letter = 'o' then some .output
    else if letter = 'c' then some .config
    else if letter = 't' then some .table
    else none
  else none

/-- What the arguments of a subcommand have said so far. -/
structure Draft where
  schema : Option String := none
  package : Option String := none
  output : Option String := none
  config : Option String := none
  dryRun : Bool := false
  tables : List String := []
  deriving DecidableEq, Repr

def setOnce (before : Option String) (value : String) : Option (Option String) :=
  if before.isSome then none else some (some value)

/-- Sets a path, which may be set once and is not empty. -/
def setPath (before : Option String) (value : String) : Option (Option String) :=
  if value.isEmpty then none else setOnce before value

def Draft.set? (draft : Draft) (option : OptionName) (value : String) : Option Draft :=
  match option with
  | .package => (setOnce draft.package value).map fun package => { draft with package }
  | .output => (setPath draft.output value).map fun output => { draft with output }
  | .config => (setPath draft.config value).map fun config => { draft with config }
  | .table => some { draft with tables := draft.tables ++ [value] }
  | _ => none

def Draft.flag? (draft : Draft) : OptionName → Option Draft
  | .dryRun => if draft.dryRun then none else some { draft with dryRun := true }
  | .verbose => some draft
  | _ => none

def Draft.setSchema? (draft : Draft) (path : String) : Option Draft :=
  (setPath draft.schema path).map fun schema => { draft with schema }

/-- What the arguments of a subcommand ask for, once all have been seen. -/
def Draft.finish (draft : Draft) (page : Page) : Request :=
  match draft.schema with
  | none => .misuse
  | some schema =>
    match page with
    | .generate => .run (.generate {
        schema, package := draft.package, output := draft.output, config := draft.config,
        dryRun := draft.dryRun, tables := draft.tables })
    | .check => .run (.check schema)
    | .list => .run (.list schema)
    | _ => .misuse

/-- What joined letters of short options come to. -/
inductive Joined where
  /-- All letters had no value. -/
  | flags (draft : Draft)
  /-- The last letter's value is the next argument. -/
  | awaiting (draft : Draft) (option : OptionName)
  | help
  | misuse

/-- The value at the end of joined letters, behind an equals sign if there is one. -/
def attachedValue : List Char → String
  | '=' :: value => String.ofList value
  | value => String.ofList value

def Draft.join (page : Page) (draft : Draft) : List Char → Joined
  | [] => .flags draft
  | letter :: rest =>
    match shortOption? page letter with
    | none => .misuse
    | some .help => .help
    | some option =>
      if option.hasValue then
        if rest.isEmpty then .awaiting draft option
        else
          match draft.set? option (attachedValue rest) with
          | some draft => .flags draft
          | none => .misuse
      else
        match draft.flag? option with
        | some draft => draft.join page rest
        | none => .misuse

/-- Takes the arguments of a subcommand behind the end of the options. -/
def Draft.plainOnly (page : Page) (draft : Draft) : List String → Request
  | [] => draft.finish page
  | argument :: rest =>
    match draft.setSchema? argument with
    | some draft => draft.plainOnly page rest
    | none => .misuse

/-- What comes next among the arguments of a subcommand. -/
inductive Awaiting where
  | argument
  | value (option : OptionName)

def Draft.take (page : Page) (draft : Draft) : Awaiting → List String → Request
  | .argument, [] => draft.finish page
  | .value _, [] => .misuse
  | .value option, argument :: rest =>
    if isValue argument then
      match draft.set? option argument with
      | some draft => draft.take page .argument rest
      | none => .misuse
    else .misuse
  | .argument, argument :: rest =>
    match shapeOf argument with
    | .dashes => draft.plainOnly page rest
    | .plain text =>
      match draft.setSchema? text with
      | some draft => draft.take page .argument rest
      | none => .misuse
    | .short letters =>
      match draft.join page letters with
      | .flags draft => draft.take page .argument rest
      | .awaiting draft option => draft.take page (.value option) rest
      | .help => .help page
      | .misuse => .misuse
    | .long name value =>
      match longOption? page name with
      | none => .misuse
      | some option =>
        if option.hasValue then
          match value with
          | none => draft.take page (.value option) rest
          | some value =>
            match draft.set? option value with
            | some draft => draft.take page .argument rest
            | none => .misuse
        else if value.isSome then .misuse
        else if option = .help then .help page
        else
          match draft.flag? option with
          | some draft => draft.take page .argument rest
          | none => .misuse

/-! ### The whole command line -/

def pageOf? (name : String) : Option Page :=
  if name = "generate" then some .generate
  else if name = "check" then some .check
  else if name = "list" then some .list
  else if name = "help" then some .help
  else none

def helpRequest : List String → Request
  | [] => .help .overview
  | [name] =>
    match pageOf? name with
    | some page => .help page
    | none => .misuse
  | _ => .misuse

/-- What joined letters in front of the subcommand ask for, if they ask for anything. -/
def topLetters : List Char → Option Request
  | [] => none
  | 'v' :: rest => topLetters rest
  | 'h' :: _ => some (.help .overview)
  | 'V' :: _ => some .version
  | _ => some .misuse

/-- What the arguments of the command line ask for. -/
def Request.ofArguments : List String → Request
  | [] => .misuse
  | argument :: rest =>
    match shapeOf argument with
    | .dashes => .misuse
    | .short letters =>
      match topLetters letters with
      | some request => request
      | none => ofArguments rest
    | .long name value =>
      if value.isSome then .misuse
      else if name = "verbose" then ofArguments rest
      else if name = "help" then .help .overview
      else if name = "version" then .version
      else .misuse
    | .plain name =>
      match pageOf? name with
      | none => .misuse
      | some .help => helpRequest rest
      | some page => Draft.take page {} .argument rest

end OvsdbModels.Command
