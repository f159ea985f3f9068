/-
  OvsdbModels/Model/Basic.lean
  ============================
  Models: what is generated for a table, in a form that a template can lay out.

  A model has the fields of a record type, the row's identity first, and the enumerations that the
  fields need.
-/
import OvsdbModels.Json.Printer
import OvsdbModels.Schema.Atom

namespace OvsdbModels

structure Field where
  /-- The column that the field holds, as the schema names it. -/
  column : String
  name : String
  type : String
  deriving DecidableEq, Repr, Inhabited

/-- The tag that binds a field to its column. -/
def Field.tag (field : Field) : String := "ovs:\"" ++ field.column ++ "\""

/-- The column that holds the identity of a row; every table has it. -/
def identityColumn : String := "_uuid"

/-- The name of the field that holds the identity of a row. -/
def identityName : String := "UUID"

def Field.identity (type : String) : Field := ⟨identityColumn, identityName, type⟩

/-- An enumeration: an alias of a type, with a constant for each allowed value. -/
structure Enumeration where
  /-- The alias that the generated code gives to the type. -/
  name : String
  /-- The type of the values in the schema. -/
  atomic : AtomicType
  /-- The type of the values in the target language. -/
  type : String
  /-- The allowed values, in the order of the schema. -/
  values : List Atom
  /-- The names of the constants of the values, in the same order. -/
  constantNames : List String
  deriving DecidableEq, Repr

def Enumeration.constants (e : Enumeration) : List (String × Atom) :=
  e.constantNames.zip e.values

structure Model where
  table : String
  package : String
  structName : String
  /-- The identity's field and then the fields of the columns in ascending order. -/
  fields : List Field
  enums : List Enumeration
  deriving DecidableEq, Repr

namespace Model

def field? (model : Model) (column : String) : Option Field :=
  model.fields.find? (·.column = column)

/-! ### As a JSON value -/

def fieldJson (field : Field) : Json.Value :=
  .object [("Column", .string field.column), ("Name", .string field.name),
    ("Tag", .string field.tag), ("Type", .string field.type)]

def enumJson (e : Enumeration) : Json.Value :=
  .object [("Alias", .string e.name), ("Sets", .array (e.values.map Atom.toJson)),
    ("Type", .string e.type)]

/-- The model for templates outside this library; members ascend by their names. -/
def toJson (model : Model) : Json.Value :=
  .object [("Enums", .array (model.enums.map enumJson)),
    ("Fields", .array (model.fields.map fieldJson)), ("PackageName", .string model.package),
    ("StructName", .string model.structName), ("TableName", .string model.table)]

end Model

end OvsdbModels
