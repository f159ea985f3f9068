/-
  OvsdbModels/Proofs/Schema/Violation.lean
  ========================================
  **What can be wrong with a database, and in which order it is told.**

  A fault is something wrong with one column, and a violation is a bad version or a fault of some
  column.  `Violates` and `HasFault` say what is wrong without reference to a search, and `Before` is the
  order in which violations are told.  A database without violations is valid (`valid_iff`).
-/
import Mathlib.Tactic.ByContra
import OvsdbModels.Proofs.NameMap
import OvsdbModels.Schema.Validation

namespace OvsdbModels

/-! ### Faults of a column -/

inductive Side where
  | key
  | value
  deriving DecidableEq, Repr

/-- The step of a column's check that looks at the literals of a side; the next step looks at its
reference. -/
def Side.step : Side → Nat
  | key => 1
  | value => 3

theorem Side.step_pos (side : Side) : 0 < side.step := by
  cases side <;> decide

inductive Fault where
  | reservedName
  /-- The literal at a position is not of the type of its side. -/
  | literal (side : Side) (position : Nat) (literal : Atom) (expected : AtomicType)
  /-- A side refers to a table that the database does not have. -/
  | reference (side : Side) (refTable : String)
  deriving DecidableEq, Repr

namespace Fault

/-- The step of a column's check that finds the fault. -/
def step : Fault → Nat
  | reservedName => 0
  | literal side _ _ _ => side.step
  | reference side _ => side.step + 1

/-- The position of a literal; only literals can be at fault twice in one step. -/
def position : Fault → Nat
  | literal _ position _ _ => position
  | _ => 0

/-- The order of faults: by step, and literals of one side by position. -/
def Before (first second : Fault) : Prop :=
  first.step < second.step ∨ first.step = second.step ∧ first.position < second.position

theorem Before.asymm {first second : Fault} (h : first.Before second) : ¬ second.Before first := by
  unfold Before at h ⊢
  omega

end Fault

namespace Column

def base? (column : Column) : Side → Option BaseType
  | .key => some column.key
  | .value => column.value

inductive HasFault (db : Database) (name : String) (column : Column) : Fault → Prop where
  | reservedName (h : name.toList.head? = some '_') : column.HasFault db name .reservedName
  | literal {side : Side} {base : BaseType} {values : List Atom} {position : Nat} {literal : Atom}
      (hbase : column.base? side = some base) (hvalues : base.allowed = some values)
      (hsupported : base.atomic.isSupported = true) (hliteral : values[position]? = some literal)
      (htype : literal.atomicType ≠ base.atomic) :
      column.HasFault db name (.literal side position literal base.atomic)
  | reference {side : Side} {base : BaseType} {refTable : String}
      (hbase : column.base? side = some base) (href : base.refTable = some refTable)
      (hmissing : refTable ∉ db.tables.names) :
      column.HasFault db name (.reference side refTable)

end Column

/-! ### Violations of a database -/

inductive Violation where
  | version (text : String)
  | column (table name : String) (fault : Fault)
  deriving DecidableEq, Repr

namespace Violation

/-- The order of violations: the version, and then by table, column and fault, names in the order of
their bytes. -/
inductive Before : Violation → Violation → Prop where
  | version {text table name : String} {fault : Fault} :
      Before (.version text) (.column table name fault)
  | table {table₁ table₂ name₁ name₂ : String} {fault₁ fault₂ : Fault}
      (h : Text.ByteLt table₁ table₂) :
      Before (.column table₁ name₁ fault₁) (.column table₂ name₂ fault₂)
  | column {table name₁ name₂ : String} {fault₁ fault₂ : Fault} (h : Text.ByteLt name₁ name₂) :
      Before (.column table name₁ fault₁) (.column table name₂ fault₂)
  | fault {table name : String} {fault₁ fault₂ : Fault} (h : fault₁.Before fault₂) :
      Before (.column table name fault₁) (.column table name fault₂)

theorem Before.asymm {first second : Violation} (h : first.Before second) :
    ¬ second.Before first := by
  cases h with
  | version => exact fun hback => nomatch hback
  | table hbytes =>
    intro hback
    cases hback with
    | table hbytes' => exact List.lt_asymm hbytes hbytes'
    | column => exact List.lt_irrefl _ hbytes
    | fault => exact List.lt_irrefl _ hbytes
  | column hbytes =>
    intro hback
    cases hback with
    | table hbytes' => exact List.lt_irrefl _ hbytes'
    | column hbytes' => exact List.lt_asymm hbytes hbytes'
    | fault => exact List.lt_irrefl _ hbytes
  | fault hfault =>
    intro hback
    cases hback with
    | table hbytes => exact List.lt_irrefl _ hbytes
    | column hbytes => exact List.lt_irrefl _ hbytes
    | fault hfault' => exact hfault.asymm hfault'

/-- The error that tells a violation, with its place in the document. -/
def error (source : String) : Violation → SchemaError
  | version text => .invalidVersion text
  | column table name .reservedName =>
    .reservedColumn table name (keySpan? source [table, name])
  | column table name (.literal _ _ literal expected) =>
    .literalMismatch table name literal expected (keySpan? source [table, name, "enum"])
  | column table name (.reference _ refTable) =>
    .unknownRefTable table name refTable (keySpan? source [table, name, "refTable"])

end Violation

def IsNumberText (text : String) : Prop :=
  text ≠ "" ∧ ∀ c ∈ text.toList, '0' ≤ c ∧ c ≤ '9'

/-- Three numbers joined by points. -/
def IsVersionText (version : String) : Prop :=
  ∃ major minor patch : String, IsNumberText major ∧ IsNumberText minor ∧ IsNumberText patch ∧
    version = major ++ "." ++ minor ++ "." ++ patch

namespace Database

def HasColumn (db : Database) (table name : String) (column : Column) : Prop :=
  ∃ content, db.tables.get? table = some content ∧ content.columns.get? name = some column

/-- What is wrong with a database. -/
inductive Violates (db : Database) : Violation → Prop where
  | version (h : ¬ IsVersionText db.version) : db.Violates (.version db.version)
  | column {table name : String} {column : Column} {fault : Fault}
      (hcolumn : db.HasColumn table name column) (h : column.HasFault db name fault) :
      db.Violates (.column table name fault)

/-- What a database must satisfy beyond its form. -/
structure Valid (db : Database) : Prop where
  version : IsVersionText db.version
  names {table name : String} {column : Column} (hcolumn : db.HasColumn table name column) :
    name.toList.head? ≠ some '_'
  literals {table name : String} {column : Column} (hcolumn : db.HasColumn table name column)
    {side : Side} {base : BaseType} (hbase : column.base? side = some base)
    (hsupported : base.atomic.isSupported = true) {values : List Atom}
    (hvalues : base.allowed = some values) :
    ∀ literal ∈ values, literal.atomicType = base.atomic
  references {table name : String} {column : Column} (hcolumn : db.HasColumn table name column)
    {side : Side} {base : BaseType} (hbase : column.base? side = some base) {refTable : String}
    (href : base.refTable = some refTable) : refTable ∈ db.tables.names

/-- A database is valid exactly if nothing is wrong with it. -/
theorem valid_iff {db : Database} : db.Valid ↔ ∀ violation, ¬ db.Violates violation := by
  constructor
  · intro hvalid violation h
    cases h with
    | version hnot => exact hnot hvalid.version
    | column hcolumn hfault =>
      cases hfault with
      | reservedName hname => exact hvalid.names hcolumn hname
      | literal hbase hvalues hsupported hget htype =>
        exact htype (hvalid.literals hcolumn hbase hsupported hvalues _ (List.mem_of_getElem? hget))
      | reference hbase href hmissing => exact hmissing (hvalid.references hcolumn hbase href)
  · intro hnone
    refine ⟨?_, ?_, ?_, ?_⟩
    · by_contra hnot
      exact hnone _ (.version hnot)
    · intro table name column hcolumn hname
      exact hnone _ (.column hcolumn (.reservedName hname))
    · intro table name column hcolumn side base hbase hsupported values hvalues literal hmem
      by_contra htype
      obtain ⟨position, hget⟩ := List.mem_iff_getElem?.mp hmem
      exact hnone _ (.column hcolumn (.literal hbase hvalues hsupported hget htype))
    · intro table name column hcolumn side base hbase refTable href
      by_contra hmissing
      exact hnone _ (.column hcolumn (.reference hbase href hmissing))

end Database

end OvsdbModels
