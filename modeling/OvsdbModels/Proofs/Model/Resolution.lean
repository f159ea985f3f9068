/-
  OvsdbModels/Proofs/Model/Resolution.lean
  ========================================
  **What the type of a column resolves to.**

  The shape of a column's type says what the type is made of: mapped atomic types and the column's
  enumeration.  A column resolves unless one of its atomic types has no counterpart in the target
  language; it then resolves to the text of its shape and to the enumeration of its key, whatever the
  kind of the column (`resolve_eq`).
-/
import OvsdbModels.Model.Resolve

namespace OvsdbModels

/-! ### Shapes -/

inductive Shape where
  | atomic (type : AtomicType)
  | enumeration (name : String)
  | sequence (element : Shape)
  | mapping (key value : Shape)
  deriving DecidableEq, Repr

namespace Shape

/-- A shape in the target language, if its atomic types are mapped. -/
def text? (target : Target) : Shape → Option String
  | atomic type => target.atomic type
  | enumeration name => some name
  | sequence element => (element.text? target).map target.sequence
  | mapping key value =>
    match key.text? target, value.text? target with
    | some keyText, some valueText => some (target.mapping keyText valueText)
    | _, _ => none

def enumNames : Shape → List String
  | atomic _ => []
  | enumeration name => [name]
  | sequence element => element.enumNames
  | mapping key value => key.enumNames ++ value.enumNames

end Shape

namespace Column

/-- The shape of one element of a column, where `enumName` names the column's enumeration. -/
def elementShape (enumName : String) (column : Column) : Shape :=
  if column.key.isEnum then .enumeration enumName else .atomic column.key.atomic

/-- The shape of a column's type.  A mapping is made of atomic types even if its keys are
enumerated. -/
def shape (enumName : String) (column : Column) : Shape :=
  match column.value with
  | some base => .mapping (.atomic column.key.atomic) (.atomic base.atomic)
  | none =>
    if column.type.isSingle then column.elementShape enumName
    else .sequence (column.elementShape enumName)

theorem kind_of_value_eq_some {column : Column} {base : BaseType} (h : column.value = some base) :
    column.kind = .map := by
  have hsome : column.type.value.isSome = true := by
    rw [← Column.value, h]
    rfl
  rw [kind, ColumnType.kind, if_pos hsome]

theorem kind_of_value_eq_none {column : Column} (h : column.value = none) :
    column.kind =
      if column.type.isSingle then if column.key.isEnum then .enum else .atomic else .set := by
  have hnone : ¬ column.type.value.isSome = true := by
    rw [← Column.value, h]
    exact Bool.false_ne_true
  rw [kind, ColumnType.kind, if_neg hnone]
  cases column.type.isSingle <;> rfl

/-- The shape of a column names no enumeration but the column's own. -/
theorem eq_of_mem_enumNames_shape {enumName name : String} {column : Column}
    (h : name ∈ (column.shape enumName).enumNames) : column.key.isEnum = true ∧ name = enumName := by
  have helement : name ∈ (column.elementShape enumName).enumNames →
      column.key.isEnum = true ∧ name = enumName := by
    unfold elementShape
    intro hmem
    split at hmem
    · exact ⟨‹_›, List.mem_singleton.mp hmem⟩
    · exact absurd hmem List.not_mem_nil
  unfold shape at h
  split at h
  · exact absurd h List.not_mem_nil
  · split at h
    · exact helement h
    · exact helement h

end Column

/-! ### Resolution -/

namespace Mapper

/-- The first of a column's atomic types that the target language does not have. -/
def unmapped? (mapper : Mapper) (column : Column) : Option AtomicType :=
  (column.type.bases.map (·.atomic)).find? fun type => (mapper.target.atomic type).isNone

/-- The enumeration of a column whose key has the type `keyType` in the target language. -/
def enumOf (mapper : Mapper) (table name keyType : String) (key : BaseType) : Option Enumeration :=
  key.allowed.map fun values =>
    let enumName := mapper.naming.enumAlias table name
    { name := enumName, atomic := key.atomic, type := keyType, values
      constantNames := values.map (mapper.target.constantName mapper.naming enumName) }

/-- What a column resolves to if all its atomic types are mapped. -/
def resolved (mapper : Mapper) (table name : String) (column : Column) : Resolved where
  type := ((column.shape (mapper.naming.enumAlias table name)).text? mapper.target).getD ""
  enum := mapper.enumOf table name ((mapper.target.atomic column.key.atomic).getD "") column.key

theorem atomic_of_some {mapper : Mapper} {type : AtomicType} {text : String}
    (h : mapper.target.atomic type = some text) (table name : String) :
    mapper.atomic table name type = .ok text := by
  rw [atomic, h]

theorem atomic_of_none {mapper : Mapper} {type : AtomicType}
    (h : mapper.target.atomic type = none) (table name : String) :
    mapper.atomic table name type = .error (.unsupportedType table name type.name) := by
  rw [atomic, h]

theorem atomic_eq_ok_iff {mapper : Mapper} {table name text : String} {type : AtomicType} :
    mapper.atomic table name type = .ok text ↔ mapper.target.atomic type = some text := by
  cases hatomic : mapper.target.atomic type with
  | none => rw [atomic_of_none hatomic]; exact ⟨fun h => (nomatch h), fun h => (nomatch h)⟩
  | some mapped =>
    rw [atomic_of_some hatomic, Option.some.injEq]
    exact ⟨Except.ok.inj, congrArg Except.ok⟩

theorem enumeration_of_some {mapper : Mapper} {keyType : String} {key : BaseType}
    (h : mapper.target.atomic key.atomic = some keyType) (table name : String) :
    mapper.enumeration table name key = .ok (mapper.enumOf table name keyType key) := by
  unfold enumeration enumOf
  cases key.allowed with
  | none => rfl
  | some values => rw [atomic_of_some h]; rfl

theorem resolve_of_key_unmapped {mapper : Mapper} {column : Column}
    (h : mapper.target.atomic column.key.atomic = none) (table name : String) :
    mapper.resolve table name column =
      .error (.unsupportedType table name column.key.atomic.name) := by
  unfold resolve enumeration
  cases hallowed : column.key.allowed with
  | some values => simp only [atomic_of_none h]; rfl
  | none =>
    simp only [atomic_of_none h]
    cases column.kind <;> rfl

theorem resolve_of_value_unmapped {mapper : Mapper} {column : Column} {keyType : String}
    {base : BaseType} (hkey : mapper.target.atomic column.key.atomic = some keyType)
    (hvalue : column.value = some base) (hbase : mapper.target.atomic base.atomic = none)
    (table name : String) :
    mapper.resolve table name column = .error (.unsupportedType table name base.atomic.name) := by
  unfold resolve
  rw [enumeration_of_some hkey, Column.kind_of_value_eq_some hvalue]
  simp only [hvalue, atomic_of_some hkey, atomic_of_none hbase]
  rfl

theorem resolve_of_mapped {mapper : Mapper} {column : Column} {keyType : String}
    (hkey : mapper.target.atomic column.key.atomic = some keyType)
    (hvalue : ∀ base ∈ column.value, (mapper.target.atomic base.atomic).isSome)
    (table name : String) :
    ∃ type, (column.shape (mapper.naming.enumAlias table name)).text? mapper.target = some type ∧
      mapper.resolve table name column =
        .ok ⟨type, mapper.enumOf table name keyType column.key⟩ := by
  unfold resolve Column.shape
  rw [enumeration_of_some hkey]
  cases hcolumn : column.value with
  | some base =>
    obtain ⟨valueType, hbase⟩ := Option.isSome_iff_exists.mp (hvalue base hcolumn)
    refine ⟨mapper.target.mapping keyType valueType, ?_, ?_⟩
    · simp only [Shape.text?, hkey, hbase]
    · rw [Column.kind_of_value_eq_some hcolumn]
      simp only [atomic_of_some hkey, atomic_of_some hbase]
      rfl
  | none =>
    rw [Column.kind_of_value_eq_none hcolumn]
    unfold Column.elementShape BaseType.isEnum enumOf
    cases column.key.allowed with
    | none =>
      simp only [atomic_of_some hkey]
      cases column.type.isSingle with
      | true => exact ⟨keyType, hkey, rfl⟩
      | false => exact ⟨mapper.target.sequence keyType, by simp [Shape.text?, hkey], rfl⟩
    | some values =>
      cases column.type.isSingle with
      | true => exact ⟨mapper.naming.enumAlias table name, rfl, rfl⟩
      | false => exact ⟨mapper.target.sequence (mapper.naming.enumAlias table name), rfl, rfl⟩

/-! ### The first type without a counterpart -/

theorem unmapped?_of_key_unmapped {mapper : Mapper} {column : Column}
    (h : mapper.target.atomic column.key.atomic = none) :
    mapper.unmapped? column = some column.key.atomic := by
  have hkey : mapper.target.atomic column.type.key.atomic = none := h
  simp [unmapped?, ColumnType.bases, hkey, Column.key]

theorem unmapped?_of_key_mapped {mapper : Mapper} {column : Column} {keyType : String}
    (h : mapper.target.atomic column.key.atomic = some keyType) :
    mapper.unmapped? column =
      (column.value.map (·.atomic)).filter fun type => (mapper.target.atomic type).isNone := by
  have hkey : mapper.target.atomic column.type.key.atomic = some keyType := h
  cases hvalue : column.type.value <;>
    simp [unmapped?, ColumnType.bases, hkey, hvalue, Column.value, Option.filter]

theorem unmapped?_eq_none_iff {mapper : Mapper} {column : Column} :
    mapper.unmapped? column = none ↔
      (mapper.target.atomic column.key.atomic).isSome ∧
        ∀ base ∈ column.value, (mapper.target.atomic base.atomic).isSome := by
  simp [unmapped?, ColumnType.bases, Column.key, Column.value, Option.isSome_iff_ne_none]

/-- A column resolves unless one of its atomic types is unmapped; the first such type is the one that
is reported, the key's before the value's. -/
theorem resolve_eq (mapper : Mapper) (table name : String) (column : Column) :
    mapper.resolve table name column =
      match mapper.unmapped? column with
      | some type => .error (.unsupportedType table name type.name)
      | none => .ok (mapper.resolved table name column) := by
  cases hkey : mapper.target.atomic column.key.atomic with
  | none => rw [resolve_of_key_unmapped hkey, unmapped?_of_key_unmapped hkey]
  | some keyType =>
    cases hunmapped : mapper.unmapped? column with
    | none =>
      obtain ⟨-, hvalue⟩ := unmapped?_eq_none_iff.mp hunmapped
      obtain ⟨type, htext, hresolve⟩ := resolve_of_mapped hkey hvalue table name
      rw [hresolve, resolved, htext, hkey]
      rfl
    | some type =>
      rw [unmapped?_of_key_mapped hkey] at hunmapped
      obtain ⟨hmap, hnone⟩ := Option.filter_eq_some_iff.mp hunmapped
      obtain ⟨base, hbase, rfl⟩ := Option.map_eq_some_iff.mp hmap
      exact resolve_of_value_unmapped hkey hbase (Option.isNone_iff_eq_none.mp hnone) table name

theorem resolve_eq_ok_iff {mapper : Mapper} {table name : String} {column : Column}
    {resolution : Resolved} :
    mapper.resolve table name column = .ok resolution ↔
      mapper.unmapped? column = none ∧ resolution = mapper.resolved table name column := by
  rw [resolve_eq]
  cases mapper.unmapped? column with
  | none => exact ⟨fun h => ⟨rfl, (Except.ok.inj h).symm⟩, fun h => congrArg Except.ok h.2.symm⟩
  | some type => exact ⟨fun h => (nomatch h), fun h => (nomatch h.1)⟩

/-- The type that a column resolves to is the text of its shape. -/
theorem shape_text_eq_resolved {mapper : Mapper} {column : Column}
    (h : mapper.unmapped? column = none) (table name : String) :
    (column.shape (mapper.naming.enumAlias table name)).text? mapper.target =
      some (mapper.resolved table name column).type := by
  obtain ⟨hkey, hvalue⟩ := unmapped?_eq_none_iff.mp h
  obtain ⟨keyType, hkeyType⟩ := Option.isSome_iff_exists.mp hkey
  obtain ⟨type, htext, -⟩ := resolve_of_mapped hkeyType hvalue table name
  rw [resolved, htext]
  rfl

end Mapper

end OvsdbModels
