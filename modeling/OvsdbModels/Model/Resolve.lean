/-
  OvsdbModels/Model/Resolve.lean
  ==============================
  The types of columns in a target language.
-/
import OvsdbModels.Model.Basic
import OvsdbModels.Model.Error
import OvsdbModels.Schema.Column
import OvsdbModels.Target

namespace OvsdbModels

/-- What makes models of tables: a target language and naming rules. -/
structure Mapper where
  target : Target
  naming : Naming := .ovsdb

/-- The type of a column in the target language, and the enumeration that it needs. -/
structure Resolved where
  type : String
  enum : Option Enumeration
  deriving DecidableEq, Repr

namespace Mapper

/-- The target type of an atomic type that a column uses. -/
def atomic (mapper : Mapper) (table column : String) (type : AtomicType) :
    Except MappingError String :=
  match mapper.target.atomic type with
  | some mapped => .ok mapped
  | none => .error (.unsupportedType table column type.name)

/-- The enumeration of a column whose key is restricted to a set of values. -/
def enumeration (mapper : Mapper) (table column : String) (key : BaseType) :
    Except MappingError (Option Enumeration) :=
  match key.allowed with
  | none => .ok none
  | some values => do
    let name := mapper.naming.enumAlias table column
    let type ← mapper.atomic table column key.atomic
    let constantNames := values.map (mapper.target.constantName mapper.naming name)
    pure (some { name, atomic := key.atomic, type, values, constantNames })

/-- The target type of a column.  The alias of its enumeration stands for single values and for the
elements of sets, but not for the keys of maps. -/
def resolve (mapper : Mapper) (table name : String) (column : Column) :
    Except MappingError Resolved := do
  let enum ← mapper.enumeration table name column.key
  let element : Except MappingError String :=
    match enum with
    | some e => .ok e.name
    | none => mapper.atomic table name column.key.atomic
  let type ←
    match column.kind with
    | .atomic => mapper.atomic table name column.key.atomic
    | .enum => element
    | .set => mapper.target.sequence <$> element
    | .map => do
      let key ← mapper.atomic table name column.key.atomic
      let value ←
        match column.value with
        | some base => mapper.atomic table name base.atomic
        | none => pure key
      pure (mapper.target.mapping key value)
  pure { type, enum }

end Mapper

end OvsdbModels
