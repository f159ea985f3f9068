/-
  OvsdbModels/Schema/TypeForm.lean
  ================================
  The written forms of types.

  A type is written as the name of an atomic type or as a record.  A record that does not fit, or a
  part of which is refused, fits no form at all; only what is wrong with a column's bounds as a
  whole, or with the outermost type itself, is told.
-/
import OvsdbModels.Json.Typed
import OvsdbModels.Schema.Column

namespace OvsdbModels

open Json (Failure Value)

/-- The reasons why a type of the right form is refused. -/
inductive Refusal where
  | maxZero
  | minExceedsMax (min max : UInt64)
  | minAboveOne (min : UInt64)
  | unknownMax (text : String)
  | enumForm (value : Value)
  | enumValue (value : Value)

def Refusal.message : Refusal → String
  | maxZero => "max must be at least 1"
  | minExceedsMax min max => "min " ++ toString min.toNat ++ " exceeds max " ++ toString max.toNat
  | minAboveOne min => "min must be 0 or 1, got " ++ toString min.toNat
  | unknownMax text => "invalid max '" ++ text ++ "', expected a number or \"unlimited\""
  | enumForm value => "invalid enum " ++ value.canonical.text ++ ", expected [\"set\", [...]]"
  | enumValue value => "invalid enum value " ++ value.canonical.text

/-- A refusal as a reason why a document cannot be read. -/
def Refusal.failure (refusal : Refusal) : Failure := .refused refusal.message

/-! ### Literals -/

/-- The literal that a JSON value stands for in an enumeration of the given type.  All numbers of an
enumeration of reals are reals; otherwise a number is an integer if it fits. -/
def Atom.ofValue? (type : AtomicType) : Value → Option Atom
  | .boolean b => some (.boolean b)
  | .string s => some (.string s)
  | .number n =>
    if type = .real then some (.real n.toFloat)
    else
      match (Value.number n).integer? with
      | some i => some (.integer i)
      | none => some (.real n.toFloat)
  | _ => none

/-- The JSON values of the literals of an enumeration: one value, or an array of the word `set` and
an array of values. -/
def enumItems? : Value → Option (List Value)
  | .array [.string tag, .array items] => if tag = "set" then some items else none
  | .array _ => none
  | v => some [v]

def allowedOfValue (type : AtomicType) (v : Value) : Except Refusal (List Atom) :=
  match enumItems? v with
  | none => .error (.enumForm v)
  | some items => items.mapM fun item =>
    match Atom.ofValue? type item with
    | some atom => .ok atom
    | none => .error (.enumValue item)

/-! ### Bounds -/

def RefStrength.ofName? (name : String) : Option RefStrength :=
  if name = "strong" then some strong else if name = "weak" then some weak else none

/-- The strength of a reference that a value stands for: its name, or a record with the name as its
only member. -/
def RefStrength.ofValue? : Value → Option RefStrength
  | .string name => ofName? name
  | .object [(name, .null)] => ofName? name
  | _ => none

def UpperBound.ofValue (v : Value) : Except Failure UpperBound :=
  match v.natural? with
  | some n => .ok (.bounded n)
  | none =>
    match v with
    | .string text =>
      if text = "unlimited" then .ok .unlimited else .error (Refusal.unknownMax text).failure
    | _ => .error (.noForm "RawMax")

/-! ### Base types -/

/-- The fields of a base type, in their order. -/
def BaseType.fieldNames : List String :=
  ["type", "enum", "refTable", "refType", "minInteger", "maxInteger", "minReal", "maxReal",
    "minLength", "maxLength"]

/-- A base type from its fields, and the value that lists its literals. -/
def BaseType.ofFields? : List (Option Value) → Option (BaseType × Option Value)
  | [type, allowed, refTable, refType, minInteger, maxInteger, minReal, maxReal, minLength,
      maxLength] => do
    let base : BaseType := {
      atomic := AtomicType.ofName (← type.bind Value.string?)
      refTable := ← Json.optionalField? Value.string? refTable
      refType := ← Json.optionalField? RefStrength.ofValue? refType
      minInteger := ← Json.optionalField? Value.integer? minInteger
      maxInteger := ← Json.optionalField? Value.integer? maxInteger
      minReal := ← Json.optionalField? Value.real? minReal
      maxReal := ← Json.optionalField? Value.real? maxReal
      minLength := ← Json.optionalField? Value.natural? minLength
      maxLength := ← Json.optionalField? Value.natural? maxLength }
    pure (base, ← Json.optionalField? some allowed)
  | _ => none

def BaseType.ofValue (v : Value) : Except Failure BaseType :=
  match v with
  | .string name => .ok (.plain (.ofName name))
  | v =>
    match (v.fields? fieldNames).bind ofFields? with
    | none => .error (.noForm "RawBaseType")
    | some (base, none) => .ok base
    | some (base, some literals) =>
      match allowedOfValue base.atomic literals with
      | .ok values => .ok (base.withAllowed values)
      | .error refusal => .error refusal.failure

/-! ### Column types -/

/-- The fields of a column type, in their order. -/
def ColumnType.fieldNames : List String := ["key", "value", "min", "max"]

/-- A column type from its fields; bounds that are left out are one. -/
def ColumnType.ofFields? : List (Option Value) → Option ColumnType
  | [key, value, min, max] => do
    let key ← key.bind fun v => (BaseType.ofValue v).toOption
    let value ← Json.optionalField? (fun v => (BaseType.ofValue v).toOption) value
    let min ← Json.optionalField? Value.natural? min
    let max ← Json.optionalField? (fun v => (UpperBound.ofValue v).toOption) max
    pure { key, value, min := min.getD 1, max := max.getD (.bounded 1) }
  | _ => none

/-- What is wrong with the bounds of a column type: at least one value must be allowed, and at most
one required. -/
def ColumnType.boundsRefusal? (type : ColumnType) : Option Refusal :=
  match type.max with
  | .bounded max =>
    if max = 0 then some .maxZero
    else if max < type.min then some (.minExceedsMax type.min max)
    else if 1 < type.min then some (.minAboveOne type.min)
    else none
  | .unlimited => if 1 < type.min then some (.minAboveOne type.min) else none

def ColumnType.ofValue (v : Value) : Except Failure ColumnType :=
  match v with
  | .string name => .ok (.scalar (.plain (.ofName name)))
  | v =>
    match (v.fields? fieldNames).bind ofFields? with
    | none => .error (.noForm "RawColumnType")
    | some type =>
      match type.boundsRefusal? with
      | some refusal => .error refusal.failure
      | none => .ok type

end OvsdbModels
