/-
  OvsdbModels/Schema/Database.lean
  ================================
  Tables and databases, and the order in which they are walked over.

  Names are sorted before anything is done with what they stand for, so nothing that is made or
  found depends on the order of the document.
-/
import OvsdbModels.NameMap
import OvsdbModels.Schema.Column

namespace OvsdbModels

/-- A table: its columns and what the schema says about its rows. -/
structure Table where
  columns : NameMap Column := .empty
  maxRows : Option UInt64 := none
  isRoot : Bool := false
  indexes : List (List String) := []
  deriving DecidableEq, Inhabited

namespace Table

def ofColumns (columns : List (String × Column)) : Table :=
  { columns := .ofList columns }

/-- The names of the columns in ascending order. -/
def sortedColumnNames (table : Table) : List String := table.columns.names

/-- The columns as they are walked over: name by name, in ascending order. -/
def sortedColumns (table : Table) : List (String × Column) :=
  table.columns.pick table.sortedColumnNames

theorem sortedColumnNames_ascend (table : Table) : table.sortedColumnNames.Pairwise (· < ·) :=
  table.columns.names_ascend

@[simp] theorem sortedColumns_eq (table : Table) : table.sortedColumns = table.columns.entries :=
  table.columns.pick_names

end Table

structure Database where
  name : String
  version : String
  checksum : Option String := none
  tables : NameMap Table := .empty
  deriving DecidableEq, Inhabited

namespace Database

/-- The names of the tables in ascending order. -/
def sortedTableNames (db : Database) : List String := db.tables.names

/-- The tables as they are walked over: name by name, in ascending order. -/
def sortedTables (db : Database) : List (String × Table) := db.tables.pick db.sortedTableNames

theorem sortedTableNames_ascend (db : Database) : db.sortedTableNames.Pairwise (· < ·) :=
  db.tables.names_ascend

@[simp] theorem sortedTables_eq (db : Database) : db.sortedTables = db.tables.entries :=
  db.tables.pick_names

end Database

end OvsdbModels
