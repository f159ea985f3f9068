/-
  OvsdbModels/Schema/Validation.lean
  ==================================
  What a schema must satisfy beyond its form, and reading schemas that do.

  The version comes first, then the tables and their columns in ascending order, so the error does
  not depend on the order of the document.
-/
import OvsdbModels.Files.Volume
import OvsdbModels.Schema.Error
import OvsdbModels.Schema.KeySpan
import OvsdbModels.Schema.Reader
import OvsdbModels.Text.Split

namespace OvsdbModels

/-- Whether a text is a version: three non-empty groups of ASCII digits between points. -/
def isVersion (version : String) : Bool :=
  let parts := Text.splitAll (· = '.') version.toList
  parts.length = 3 && parts.all fun part => !part.isEmpty && part.all Char.isDigit

/-- Whether a column name is reserved: it begins with an underscore. -/
def isReservedName (column : String) : Bool :=
  match column.toList with
  | '_' :: _ => true
  | _ => false

namespace Database

/-- What is wrong with the key or value type of a column: a literal of another type, unless the type
itself is unknown, or a reference to a table that is not there. -/
def baseError? (db : Database) (source table column : String) (base : BaseType) :
    Option SchemaError :=
  let stray := if base.atomic.isSupported then
      (base.allowed.getD []).find? fun literal => !literal.isOfType base.atomic
    else none
  match stray with
  | some literal => some (.literalMismatch table column literal base.atomic
      (keySpan? source [table, column, "enum"]))
  | none =>
    match base.refTable with
    | some refTable =>
      if db.tables.contains refTable then none
      else some (.unknownRefTable table column refTable
        (keySpan? source [table, column, "refTable"]))
    | none => none

def columnError? (db : Database) (source table name : String) (column : Column) :
    Option SchemaError :=
  if isReservedName name then some (.reservedColumn table name (keySpan? source [table, name]))
  else column.type.bases.findSome? (db.baseError? source table name)

/-- The first thing that is wrong with a database, whose document is `source`. -/
def firstError? (db : Database) (source : String) : Option SchemaError :=
  if !isVersion db.version then some (.invalidVersion db.version)
  else db.sortedTables.findSome? fun (table, content) =>
    content.sortedColumns.findSome? fun (name, column) =>
      db.columnError? source table name column

/-- The error of a document that cannot be read. -/
def unparsable (source : String) (problem : Json.Problem) : SchemaError :=
  let position := Text.positionAt source (problem.offset?.getD 0)
  .unparsable problem.failure position
    ((Text.offsetOf? source position).map fun offset => ⟨offset, 1⟩)

/-- Reads a schema from a document and checks it. -/
def parse (source : String) : Except SchemaError Database :=
  match Json.readAll Database.reader source with
  | .error problem => .error (unparsable source problem)
  | .ok db =>
    match db.firstError? source with
    | some error => .error error
    | none => .ok db

/-- Reads a schema from a file and checks it. -/
def ofFile {m : Type → Type} [Monad m] (volume : Files.Volume m) (path : String) :
    m (Except SchemaError Database) := do
  match ← volume.readText path with
  | none => pure (.error (.unreadable path))
  | some source => pure (Database.parse source)

end Database

end OvsdbModels
