/-
  OvsdbModels/Schema/Column.lean
  ==============================
  Columns and their types.

  A column's type is a key type, perhaps a value type, and bounds on the number of values.  Each of
  the two is an atomic type with constraints, of which the set of allowed values matters most.
-/
import OvsdbModels.Schema.Atom

namespace OvsdbModels

/-- Whether a reference keeps the row that it points to alive. -/
inductive RefStrength where
  | strong
  | weak
  deriving DecidableEq, Repr, Inhabited

def RefStrength.name : RefStrength → String
  | strong => "strong"
  | weak => "weak"

/-- The upper bound on the number of values of a column. -/
inductive UpperBound where
  | bounded (n : UInt64)
  | unlimited
  deriving DecidableEq, Repr, Inhabited

def UpperBound.text : UpperBound → String
  | bounded n => toString n.toNat
  | unlimited => "unlimited"

structure BaseType where
  atomic : AtomicType
  /-- The allowed values, in the order of the schema. -/
  allowed : Option (List Atom) := none
  refTable : Option String := none
  refType : Option RefStrength := none
  minInteger : Option Int64 := none
  maxInteger : Option Int64 := none
  minReal : Option Float := none
  maxReal : Option Float := none
  minLength : Option UInt64 := none
  maxLength : Option UInt64 := none
  deriving DecidableEq, Repr, Inhabited

namespace BaseType

def plain (atomic : AtomicType) : BaseType := { atomic }

def withAllowed (base : BaseType) (values : List Atom) : BaseType :=
  { base with allowed := some values }

/-- The type as a reference to the rows of a table. -/
def withRef (base : BaseType) (table : String) (strength : RefStrength) : BaseType :=
  { base with refTable := some table, refType := some strength }

/-- Whether the type is restricted to a set of values. -/
def isEnum (base : BaseType) : Bool := base.allowed.isSome

end BaseType

inductive ColumnKind where
  /-- One value. -/
  | atomic
  /-- One of a set of allowed values. -/
  | enum
  /-- A set of values; also a value that may be missing. -/
  | set
  /-- Pairs of keys and values. -/
  | map
  deriving DecidableEq, Repr

def ColumnKind.name : ColumnKind → String
  | atomic => "atomic"
  | enum => "enum"
  | set => "set"
  | map => "map"

structure ColumnType where
  key : BaseType
  value : Option BaseType := none
  min : UInt64 := 1
  max : UpperBound := .bounded 1
  deriving DecidableEq, Repr, Inhabited

namespace ColumnType

def scalar (key : BaseType) : ColumnType := { key }

def set (key : BaseType) : ColumnType := { key, min := 0, max := .unlimited }

def map (key value : BaseType) : ColumnType :=
  { key, value := some value, min := 0, max := .unlimited }

def withBounds (type : ColumnType) (min : UInt64) (max : UpperBound) : ColumnType :=
  { type with min, max }

/-- Whether a column of the type holds exactly one value or pair. -/
def isSingle (type : ColumnType) : Bool := type.min = 1 && type.max = .bounded 1

/-- The kind of a column: a value type makes a map, bounds other than exactly one a set, and a
restricted key an enumeration. -/
def kind (type : ColumnType) : ColumnKind :=
  if type.value.isSome then .map
  else if !type.isSingle then .set
  else if type.key.isEnum then .enum
  else .atomic

/-- The key type, and the value type if there is one. -/
def bases (type : ColumnType) : List BaseType := type.key :: type.value.toList

end ColumnType

structure Column where
  type : ColumnType
  ephemeral : Bool := false
  mutable : Bool := true
  deriving DecidableEq, Repr, Inhabited

namespace Column

/-- A column with exactly one value of an atomic type. -/
def plain (atomic : AtomicType) : Column := { type := .scalar (.plain atomic) }

def kind (column : Column) : ColumnKind := column.type.kind

/-- The type of the column's keys, or of its only element. -/
def key (column : Column) : BaseType := column.type.key

/-- The type of the column's values, if it holds pairs. -/
def value (column : Column) : Option BaseType := column.type.value

end Column

end OvsdbModels
