/-
  OvsdbModels/Go/Preview.lean
  ===========================
  The files that are generated for a database, one for each table.
-/
import OvsdbModels.Go.Render
import OvsdbModels.Model.Mapping

namespace OvsdbModels.Go

def extension : String := "go"

def mapper : Mapper := { target }

structure Job where
  database : Database
  package : String
  /-- The tables to generate; all tables if there is no selection. -/
  selection : Option (List String) := none
  template : Template := .stock

structure File where
  /-- The path below the output directory. -/
  path : String
  content : String
  deriving DecidableEq, Repr

inductive JobError where
  | unknownTable (table database : String)
  | mapping (error : MappingError)
  deriving DecidableEq, Repr

def JobError.message : JobError → String
  | unknownTable table database =>
    "table '" ++ table ++ "' not found in schema '" ++ database ++ "'"
  | mapping error => error.message

namespace Job

/-- The tables to generate, in ascending order; the first selected name that is no table is an
error. -/
def tables (job : Job) : Except JobError (List (String × Table)) :=
  match job.selection with
  | none => .ok job.database.sortedTables
  | some names =>
    match names.find? fun name => !job.database.tables.contains name with
    | some name => .error (.unknownTable name job.database.name)
    | none => .ok (job.database.tables.select names)

def models (job : Job) : Except JobError (List Model) := do
  (← job.tables).mapM fun (name, table) =>
    (mapper.model job.package name table).mapError .mapping

def file (job : Job) (model : Model) : File :=
  ⟨Naming.fileName model.table extension, render job.template model⟩

def preview (job : Job) : Except JobError (List File) :=
  return (← job.models).map job.file

end Job

end OvsdbModels.Go
