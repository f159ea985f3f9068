/-
  OvsdbModels/Command/Run.lean
  ============================
  Running commands on a volume of files.

  A command ends with an exit code, a text for the standard output, and one for the diagnostics.
-/
import OvsdbModels.Command.Manual
import OvsdbModels.Config.Basic
import OvsdbModels.Go.Generate
import OvsdbModels.Schema.Validation

namespace OvsdbModels.Command

open Files (Volume)

structure Outcome where
  exitCode : Nat := 0
  output : String := ""
  diagnostics : String := ""
  deriving DecidableEq, Repr

def Outcome.done (output : String) : Outcome := { output }

def Outcome.failed (message : String) : Outcome :=
  { exitCode := 1, diagnostics := "Error: " ++ message ++ "\n" }

def Outcome.misuse : Outcome :=
  { exitCode := 2, diagnostics := "error: invalid arguments\n\n" ++ Page.overview.text }

/-- The ending of a noun for a number of things. -/
def plural (n : Nat) : String := if n = 1 then "" else "s"

def counted (n : Nat) (noun : String) : String := toString n ++ " " ++ noun ++ plural n

/-! ### Texts -/

def checkText (schema : String) (db : Database) (models : List Model) : String :=
  let enums := models.foldl (fun n model => n + model.enums.length) 0
  "✓ " ++ schema ++ " is valid\n\n  " ++ db.name ++ " v" ++ db.version ++ "\n  " ++
    counted models.length "table" ++ ", " ++ counted enums "enum" ++ "\n"

/-- A name with spaces behind it up to a number of characters. -/
def padded (width : Nat) (name : String) : String :=
  name ++ String.ofList (List.replicate (width - name.length) ' ')

def tableLine (width : Nat) (name : String) (table : Table) : String :=
  "  " ++ padded width name ++ "  " ++ Naming.typeName name ++ " (" ++
    counted table.columns.size "column" ++ (if table.isRoot then ", root" else "") ++ ")\n"

/-- The list of a schema's tables; the names are padded to the most bytes that one has. -/
def listText (db : Database) : String :=
  if db.tables.isEmpty then "No tables defined\n"
  else
    let width := (db.sortedTableNames.map String.utf8ByteSize).foldl max 0
    "Tables:\n" ++ String.join (db.sortedTables.map fun (name, table) =>
      tableLine width name table)

def previewText (files : List Go.File) : String :=
  String.join (files.map fun file => "── " ++ file.path ++ " ──\n" ++ file.content ++ "\n") ++
    "── Summary ──\n" ++ toString files.length ++ " files would be generated\n"

def reportText (directory : String) (report : Go.Report) : String :=
  "Generated " ++ counted report.written.length "file" ++ " in " ++ directory ++ "\n" ++
    String.join (report.written.map fun path => "  " ++ path ++ "\n")

/-! ### Commands -/

variable {m : Type → Type} [Monad m]

/-- Checks a schema and whether all its tables have models. -/
def runCheck (volume : Volume m) (schema : String) : m Outcome := do
  match ← Database.ofFile volume schema with
  | .error error => pure (.failed error.message)
  | .ok db =>
    match Go.mapper.models "check" db with
    | .error error => pure (.failed error.message)
    | .ok models => pure (.done (checkText schema db models))

def runList (volume : Volume m) (schema : String) : m Outcome := do
  match ← Database.ofFile volume schema with
  | .error error => pure (.failed error.message)
  | .ok db => pure (.done (listText db))

/-- The job that the options and the configuration describe. -/
def jobOf (options : Generate) (config : Config) (template : Go.Template) (database : Database) :
    Go.Job where
  database
  package := config.packageName options.package
  selection := if options.tables.isEmpty then none else some options.tables
  template

def runJob (volume : Volume m) (options : Generate) (config : Config) (job : Go.Job) :
    m Outcome := do
  if options.dryRun then
    match job.preview with
    | .error error => pure (.failed error.message)
    | .ok files => pure (.done (previewText files))
  else
    let directory := config.outputDirectory options.output
    match ← job.generate volume .always directory with
    | .error error => pure (.failed error.message)
    | .ok report => pure (.done (reportText directory report))

def runGenerate (volume : Volume m) (options : Generate) : m Outcome := do
  match ← Config.load volume options.config with
  | .error error => pure (.failed error.message)
  | .ok config =>
    match ← Database.ofFile volume options.schema with
    | .error error => pure (.failed error.message)
    | .ok db =>
      match config.template with
      | .error error => pure (.failed error.message)
      | .ok template => runJob volume options config (jobOf options config template db)

def run (volume : Volume m) (arguments : List String) : m Outcome :=
  match Request.ofArguments arguments with
  | .misuse => pure .misuse
  | .version => pure (.done versionText)
  | .help page => pure (.done page.text)
  | .run (.generate options) => runGenerate volume options
  | .run (.check schema) => runCheck volume schema
  | .run (.list schema) => runList volume schema

end OvsdbModels.Command
