/-
  OvsdbModels/Model/Error.lean
  ============================
  The reasons why a table has no model.
-/

namespace OvsdbModels

inductive Declaration where
  /-- The alias of the column's enumeration. -/
  | enumeration (column : String)
  /-- The constant of one of its values, given by its literal. -/
  | constant (literal column : String)
  deriving DecidableEq, Repr

def Declaration.description : Declaration → String
  | enumeration column => "enum type of column '" ++ column ++ "'"
  | constant literal column => "value " ++ literal ++ " of column '" ++ column ++ "'"

inductive MappingError where
  /-- The type has no counterpart in the target language. -/
  | unsupportedType (table column type : String)
  | emptyTypeName (table : String)
  | emptyFieldName (table column : String)
  | duplicateField (table name first second : String)
  | duplicateAlias (table name first second : String)
  | duplicateConstant (table column name : String) (first second : Declaration)
  deriving DecidableEq, Repr

namespace MappingError

def message : MappingError → String
  | unsupportedType table column type =>
    "column '" ++ table ++ "." ++ column ++ "' has unsupported type '" ++ type ++ "'"
  | emptyTypeName table => "table '" ++ table ++ "' has no usable type name"
  | emptyFieldName table column =>
    "column '" ++ table ++ "." ++ column ++ "' normalizes to an empty field name"
  | duplicateField table name first second =>
    "columns '" ++ first ++ "' and '" ++ second ++ "' of table '" ++ table ++
      "' both map to field '" ++ name ++ "'"
  | duplicateAlias table name first second =>
    "columns '" ++ first ++ "' and '" ++ second ++ "' of table '" ++ table ++
      "' both map to enum '" ++ name ++ "'"
  | duplicateConstant table column name first second =>
    "enum constant '" ++ name ++ "' of column '" ++ table ++ "." ++ column ++
      "' is declared by both " ++ first.description ++ " and " ++ second.description

def code : MappingError → String
  | unsupportedType _ _ _ => "ovsgen::unsupported_type"
  | emptyTypeName _ => "ovsgen::empty_name"
  | emptyFieldName _ _ => "ovsgen::empty_name"
  | duplicateField _ _ _ _ => "ovsgen::duplicate_field"
  | duplicateAlias _ _ _ _ => "ovsgen::duplicate_enum"
  | duplicateConstant _ _ _ _ _ => "ovsgen::duplicate_enum_constant"

def help? : MappingError → Option String
  | unsupportedType _ _ _ => some "supported types are integer, real, boolean, string and uuid"
  | duplicateField _ _ _ _ => some "rename one of the columns so their normalized names differ"
  | duplicateConstant _ _ _ _ _ =>
    some "enum values must stay distinct after normalization, and none may be empty"
  | _ => none

def table : MappingError → String
  | unsupportedType table _ _ => table
  | emptyTypeName table => table
  | emptyFieldName table _ => table
  | duplicateField table _ _ _ => table
  | duplicateAlias table _ _ _ => table
  | duplicateConstant table _ _ _ _ => table

end MappingError

end OvsdbModels
