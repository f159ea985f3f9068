/-
  OvsdbModels/Schema/Reader.lean
  ==============================
  Reading schemas from documents.

  Databases, tables and columns are read member by member, so the first problem of the document is
  the one reported.  The type of a column is read as a value first and then taken apart.
-/
import OvsdbModels.Schema.Database
import OvsdbModels.Schema.TypeForm

namespace OvsdbModels

open Json

/-! ### Types -/

/-- A value that is read whole and then converted. -/
def converted {α : Type} (convert : Value → Except Failure α) (depth : Nat) : Reader α := do
  match convert (← value depth) with
  | .ok a => pure a
  | .error failure => failWhole failure

def AtomicType.reader (_depth : Nat) : Reader AtomicType :=
  return ofName (← Json.string)

def UpperBound.reader : Nat → Reader UpperBound := converted UpperBound.ofValue

def BaseType.reader : Nat → Reader BaseType := converted BaseType.ofValue

def ColumnType.reader : Nat → Reader ColumnType := converted ColumnType.ofValue

/-- The name of the strength of a reference, of which the opening quote is the next character. -/
def RefStrength.nameReader : Reader RefStrength := do
  let name ← stringLiteral
  match RefStrength.ofName? name with
  | some strength => pure strength
  | none => failHere (.unknownVariant name "`strong` or `weak`")

/-- The name of the strength of a reference as the name of a member. -/
def RefStrength.memberReader : Reader RefStrength := do
  match ← peekPiece with
  | none => failNext .unfinishedValue
  | some '"' => nameReader
  | some _ => failNext .nameNotString

/-- The strength of a reference: its name, or a record with the name as its only member. -/
def RefStrength.reader (depth : Nat) : Reader RefStrength := do
  match ← peekPiece with
  | none => failNext .unfinishedValue
  | some '"' => nameReader
  | some '\x7b' =>
    deeper depth fun _ => do
      advance
      let strength ← memberReader
      colon
      nothing
      match ← peekPiece with
      | none => failHere .unfinishedObject
      | some '\x7d' =>
        advance
        pure strength
      | some _ => failHere .expectedValue
  | some _ => failNext .expectedValue

/-! ### Columns -/

/-- The members of a column that have been read. -/
structure Column.Draft where
  type : Option ColumnType := none
  ephemeral : Option Bool := none
  mutable : Option Bool := none

def Column.Draft.member (depth : Nat) (draft : Column.Draft) (name : String) :
    Reader Column.Draft := do
  if name = "type" then
    return { draft with type := ← once name draft.type (ColumnType.reader depth) }
  else if name = "ephemeral" then
    return { draft with ephemeral := ← once name draft.ephemeral boolean }
  else if name = "mutable" then
    return { draft with mutable := ← once name draft.mutable boolean }
  else
    passMember
    pure draft

def Column.byMembers (depth : Nat) : Reader Column := do
  let draft ← members (Column.Draft.member depth) {}
  let type ← required "type" draft.type
  pure { type, ephemeral := draft.ephemeral.getD false, mutable := draft.mutable.getD true }

def Column.inOrder (depth : Nat) : Reader Column := do
  let type ← fieldAt "struct ColumnSchema with 3 elements" 0 (ColumnType.reader depth)
  let ephemeral ← fieldAtD 1 false boolean
  let mutable ← fieldAtD 2 true boolean
  pure { type, ephemeral, mutable }

def Column.reader : Nat → Reader Column :=
  record "ColumnSchema" Column.byMembers Column.inOrder

/-! ### Tables -/

/-- The members of a table that have been read. -/
structure Table.Draft where
  columns : Option (NameMap Column) := none
  maxRows : Option (Option UInt64) := none
  isRoot : Option Bool := none
  indexes : Option (List (List String)) := none

def Table.columnsReader : Nat → Reader (NameMap Column) := nameMap Column.reader

/-- The indexes of a table: lists of column names. -/
def Table.indexesReader : Nat → Reader (List (List String)) := list (list fun _ => string)

def Table.Draft.member (depth : Nat) (draft : Table.Draft) (name : String) :
    Reader Table.Draft := do
  if name = "columns" then
    return { draft with columns := ← once name draft.columns (columnsReader depth) }
  else if name = "maxRows" then
    return { draft with maxRows := ← once name draft.maxRows (optional natural) }
  else if name = "isRoot" then
    return { draft with isRoot := ← once name draft.isRoot boolean }
  else if name = "indexes" then
    return { draft with indexes := ← once name draft.indexes (indexesReader depth) }
  else
    passMember
    pure draft

def Table.byMembers (depth : Nat) : Reader Table := do
  let draft ← members (Table.Draft.member depth) {}
  let columns ← required "columns" draft.columns
  pure {
    columns
    maxRows := draft.maxRows.getD none
    isRoot := draft.isRoot.getD false
    indexes := draft.indexes.getD [] }

def Table.inOrder (depth : Nat) : Reader Table := do
  let columns ← fieldAt "struct TableSchema with 4 elements" 0 (columnsReader depth)
  let maxRows ← fieldAtD 1 none (optional natural)
  let isRoot ← fieldAtD 2 false boolean
  let indexes ← fieldAtD 3 [] (indexesReader depth)
  pure { columns, maxRows, isRoot, indexes }

def Table.reader : Nat → Reader Table :=
  record "TableSchema" Table.byMembers Table.inOrder

/-! ### Databases -/

/-- The members of a database that have been read. -/
structure Database.Draft where
  name : Option String := none
  version : Option String := none
  checksum : Option (Option String) := none
  tables : Option (NameMap Table) := none

def Database.Draft.member (depth : Nat) (draft : Database.Draft) (name : String) :
    Reader Database.Draft := do
  if name = "name" then
    return { draft with name := ← once name draft.name string }
  else if name = "version" then
    return { draft with version := ← once name draft.version string }
  else if name = "cksum" then
    return { draft with checksum := ← once name draft.checksum (optional string) }
  else if name = "tables" then
    return { draft with tables := ← once name draft.tables (nameMap Table.reader depth) }
  else
    passMember
    pure draft

def Database.byMembers (depth : Nat) : Reader Database := do
  let draft ← members (Database.Draft.member depth) {}
  let name ← required "name" draft.name
  let version ← required "version" draft.version
  let tables ← required "tables" draft.tables
  pure { name, version, checksum := draft.checksum.getD none, tables }

def Database.inOrder (depth : Nat) : Reader Database := do
  let shape := "struct DatabaseSchema with 4 elements"
  let name ← fieldAt shape 0 string
  let version ← fieldAt shape 1 string
  let checksum ← fieldAtD 2 none (optional string)
  let tables ← fieldAt shape 3 (nameMap Table.reader depth)
  pure { name, version, checksum, tables }

def Database.reader : Nat → Reader Database :=
  record "DatabaseSchema" Database.byMembers Database.inOrder

end OvsdbModels
