/-
  OvsdbModels/Model/Mapping.lean
  ==============================
  Models of tables.

  The columns are taken in ascending order.  Fields must have different names, the identity's field
  included; the aliases of enumerations and the names of their constants share one further
  namespace.
-/
import OvsdbModels.Model.Resolve
import OvsdbModels.Schema.Database

namespace OvsdbModels

/-- A model in the making: what the columns so far gave, and who took which name. -/
structure Model.Draft where
  fields : List Field
  enums : List Enumeration
  /-- Field names and the columns that took them. -/
  fieldOwners : List (String × String)
  /-- Aliases and the columns that took them. -/
  aliasOwners : List (String × String)
  /-- Names of aliases and constants and the declarations that took them. -/
  declared : List (String × Declaration)

namespace Model.Draft

/-- The draft with the identity's field alone. -/
def start (identityType : String) : Model.Draft where
  fields := [.identity identityType]
  enums := []
  fieldOwners := [(identityName, identityColumn)]
  aliasOwners := []
  declared := []

/-- Takes a name for a declaration of a column. -/
def declare (table column : String) (declared : List (String × Declaration)) (name : String)
    (declaration : Declaration) : Except MappingError (List (String × Declaration)) :=
  match declared.lookup name with
  | some first => .error (.duplicateConstant table column name first declaration)
  | none => .ok ((name, declaration) :: declared)

/-- Takes the names of a column's enumeration: its alias and then its constants. -/
def addEnum (target : Target) (table column : String) (draft : Model.Draft) (e : Enumeration) :
    Except MappingError Model.Draft := do
  if let some first := draft.aliasOwners.lookup e.name then
    throw (.duplicateAlias table e.name first column)
  let declared ← declare table column draft.declared e.name (.enumeration column)
  let declared ← e.constants.foldlM (fun declared (name, value) =>
    declare table column declared name (.constant (target.literal value) column)) declared
  pure { draft with
    enums := draft.enums ++ [e]
    aliasOwners := (e.name, column) :: draft.aliasOwners
    declared }

def addField (table : String) (draft : Model.Draft) (field : Field) :
    Except MappingError Model.Draft :=
  match draft.fieldOwners.lookup field.name with
  | some first => .error (.duplicateField table field.name first field.column)
  | none => .ok { draft with
      fields := draft.fields ++ [field]
      fieldOwners := (field.name, field.column) :: draft.fieldOwners }

end Model.Draft

namespace Mapper

def addColumn (mapper : Mapper) (table : String) (draft : Model.Draft) (name : String)
    (column : Column) : Except MappingError Model.Draft := do
  let fieldName := mapper.naming.normalize name
  if fieldName.isEmpty then throw (.emptyFieldName table name)
  let resolved ← mapper.resolve table name column
  let draft ←
    match resolved.enum with
    | some e => draft.addEnum mapper.target table name e
    | none => pure draft
  draft.addField table ⟨name, fieldName, resolved.type⟩

def model (mapper : Mapper) (package name : String) (table : Table) :
    Except MappingError Model := do
  let structName := Naming.typeName name
  if structName.isEmpty then throw (.emptyTypeName name)
  let identityType ← mapper.atomic name identityColumn .uuid
  let draft ← table.sortedColumns.foldlM
    (fun draft (column, content) => mapper.addColumn name draft column content)
    (Model.Draft.start identityType)
  pure { table := name, package, structName, fields := draft.fields, enums := draft.enums }

/-- The models of all tables of a database, in ascending order of the tables. -/
def models (mapper : Mapper) (package : String) (db : Database) :
    Except MappingError (List Model) :=
  db.sortedTables.mapM fun (name, table) => mapper.model package name table

end Mapper

end OvsdbModels
