/-
  OvsdbModels/Config/Basic.lean
  =============================
  Configurations: a package name, an output directory, and snippets for templates.
-/
import OvsdbModels.Files.Volume
import OvsdbModels.Go.Template
import OvsdbModels.NameMap
import OvsdbModels.Toml.Statement

namespace OvsdbModels

open Files (Volume)
open Toml (KeyPath Setting Statement)

structure Config where
  package : Option String := none
  output : Option String := none
  /-- Snippets by the names of the template blocks that they replace. -/
  templates : NameMap String := .empty
  deriving DecidableEq, Inhabited

namespace Config

/-! ### From statements -/

/-- How the table of templates has come about. -/
inductive TemplatesForm where
  | absent
  /-- By keys with points in them; more such keys may follow, but no header. -/
  | dotted
  /-- By a header, or as a value; it is complete. -/
  | whole
  deriving DecidableEq, Repr

structure Progress where
  config : Config := {}
  form : TemplatesForm := .absent
  /-- Whether assignments belong to the table of templates. -/
  inTemplates : Bool := false

/-- Adds a snippet; a name may occur once. -/
def addTemplate? (config : Config) (name text : String) : Option Config :=
  if config.templates.contains name then none
  else some { config with templates := config.templates.insert name text }

/-- Adds the snippets of a value that is taken for a table. -/
def addTemplates? (config : Config) : List (KeyPath × String) → Option Config
  | [] => some config
  | ([name], text) :: rest => do (← config.addTemplate? name text).addTemplates? rest
  | _ => none

/-- Adds an assignment at the top of the file. -/
def assignTop? (progress : Progress) : KeyPath → Setting → Option Progress
  | ["package"], .text s =>
    if progress.config.package.isSome then none
    else some { progress with config := { progress.config with package := some s } }
  | ["output"], .text s =>
    if progress.config.output.isSome then none
    else some { progress with config := { progress.config with output := some s } }
  | ["templates"], value =>
    if progress.form ≠ .absent then none
    else do
      let config ← progress.config.addTemplates? (← value.entries?)
      some { progress with config, form := .whole }
  | ["templates", name], .text s =>
    if progress.form = .whole then none
    else do
      let config ← progress.config.addTemplate? name s
      some { progress with config, form := .dotted }
  | _, _ => none

def assignTemplate? (progress : Progress) : KeyPath → Setting → Option Progress
  | [name], .text s => do
    let config ← progress.config.addTemplate? name s
    some { progress with config }
  | _, _ => none

def Progress.add? (progress : Progress) : Statement → Option Progress
  | .header path =>
    if path = ["templates"] ∧ progress.form = .absent then
      some { progress with form := .whole, inTemplates := true }
    else none
  | .assign path value =>
    if progress.inTemplates then assignTemplate? progress path value
    else assignTop? progress path value

/-- The configuration of a file; nothing if the file is none. -/
def parse? (content : String) : Option Config := do
  let progress ← (← Toml.statements? content).foldlM Progress.add? {}
  some progress.config

/-! ### Loading -/

/-- The file that is looked for in the working directory. -/
def defaultPath : String := "ovsgen.toml"

inductive Error where
  | unreadable (path : String)
  | unparsable (path : String)
  /-- A snippet has a name that is not the name of a template block. -/
  | template (error : Go.UnknownBlock)
  deriving DecidableEq, Repr

def Error.message : Error → String
  | unreadable path => "failed to read '" ++ path ++ "'"
  | unparsable path => "failed to parse '" ++ path ++ "'"
  | template _ => "invalid [templates] entry"

def Error.cause? : Error → Option String
  | template error => some error.message
  | _ => none

variable {m : Type → Type} [Monad m]

def readFile (volume : Volume m) (path : String) : m (Except Error Config) := do
  match ← volume.readText path with
  | none => pure (.error (.unreadable path))
  | some content =>
    match parse? content with
    | none => pure (.error (.unparsable path))
    | some config => pure (.ok config)

/-- Reads the given configuration file, or the one in the working directory if there is one. -/
def load (volume : Volume m) (path : Option String) : m (Except Error Config) := do
  match path with
  | some path => readFile volume path
  | none =>
    if ← volume.isFile defaultPath then readFile volume defaultPath else pure (.ok {})

/-! ### Values -/

def defaultPackage : String := "ovsmodel"

/-- The package name: the given one, the configured one, or the default. -/
def packageName (config : Config) (given : Option String) : String :=
  (given <|> config.package).getD defaultPackage

/-- The output directory: the given one, the configured one, or the working directory. -/
def outputDirectory (config : Config) (given : Option String) : String :=
  (given <|> config.output).getD "."

def template (config : Config) : Except Error Go.Template :=
  (Go.Template.ofNamed config.templates.entries).mapError .template

end Config

end OvsdbModels
