/-
  OvsdbModels/Proofs/Model/Contents.lean
  ======================================
  **What the model of a table holds.**

  Fields and enumerations are stated against the columns that they come from, one by one, so none is
  lost, repeated or moved (`contents`).  That an alias is declared once follows from the names that
  are declared over all columns: the aliases are among them.
-/
import Mathlib.Data.List.Flatten
import Mathlib.Data.List.Forall2
import OvsdbModels.Proofs.Model.Existence
import OvsdbModels.Proofs.NameMap
import OvsdbModels.Proofs.Schema.Violation
import OvsdbModels.Sample.Tables
import OvsdbModels.Sample.Target

namespace OvsdbModels

theorem Enumeration.constants_unzip {e : Enumeration}
    (h : e.constantNames.length = e.values.length) :
    e.constants.map (·.1) = e.constantNames ∧ e.constants.map (·.2) = e.values :=
  ⟨List.map_fst_zip (Nat.le_of_eq h), List.map_snd_zip (Nat.le_of_eq h.symm)⟩

namespace Mapper

/-! ### The parts of a model and the columns they come from -/

structure IsFieldOf (mapper : Mapper) (table : String) (entry : String × Column) (field : Field) :
    Prop where
  column : field.column = entry.1
  name : field.name = mapper.naming.normalize entry.1
  type : ∃ enum, mapper.resolve table entry.1 entry.2 = .ok ⟨field.type, enum⟩
  tag : field.tag = "ovs:\"" ++ entry.1 ++ "\""

structure IsEnumOf (mapper : Mapper) (table : String) (entry : String × Column) (e : Enumeration) :
    Prop where
  resolved : ∃ type, mapper.resolve table entry.1 entry.2 = .ok ⟨type, some e⟩
  name : e.name = mapper.naming.enumAlias table entry.1
  values : entry.2.key.allowed = some e.values
  length : e.constantNames.length = e.values.length
  constantNames (i : Nat) : e.constantNames[i]? =
    (e.values[i]?).map (mapper.target.constantName mapper.naming e.name)
  constants : e.constants.map (·.1) = e.constantNames ∧ e.constants.map (·.2) = e.values

structure Contents (mapper : Mapper) (name : String) (table : Table) (model : Model) : Prop where
  ascending : table.columns.names.Pairwise Text.ByteLt
  /-- The identity's field is followed by one field for each column. -/
  fields : ∃ identity columnFields, model.fields = identity :: columnFields ∧
    identity.column = "_uuid" ∧ identity.name = "UUID" ∧ identity.tag = "ovs:\"_uuid\"" ∧
    mapper.target.atomic .uuid = some identity.type ∧
    List.Forall₂ (mapper.IsFieldOf name) table.columns.entries columnFields
  enums : List.Forall₂ (mapper.IsEnumOf name)
    (table.columns.entries.filter fun entry => entry.2.key.isEnum) model.enums
  /-- The type of a field is made of mapped types and of aliases, and each alias is declared once. -/
  aliases : ∀ entry ∈ table.columns.entries, ∀ field, mapper.IsFieldOf name entry field →
    let shape := entry.2.shape (mapper.naming.enumAlias name entry.1)
    shape.text? mapper.target = some field.type ∧
      ∀ enumName ∈ shape.enumNames, (model.enums.map (·.name)).count enumName = 1
  /-- A field is found under its column, unless a column takes the identity's place. -/
  lookup : "_uuid" ∉ table.columns.names →
    (∀ entry ∈ table.columns.entries, ∃ field,
      model.field? entry.1 = some field ∧ mapper.IsFieldOf name entry field) ∧
    ∀ column ∉ table.columns.names, column ≠ "_uuid" → model.field? column = none

/-! ### Fields -/

theorem isFieldOf_fieldOf {mapper : Mapper} {name : String} {entry : String × Column}
    (h : mapper.Usable entry) : mapper.IsFieldOf name entry (mapper.fieldOf name entry) where
  column := rfl
  name := rfl
  type := ⟨_, resolve_eq_ok_iff.mpr ⟨h.2, rfl⟩⟩
  tag := rfl

theorem IsFieldOf.type_eq {mapper : Mapper} {name : String} {entry : String × Column} {field : Field}
    (h : mapper.IsFieldOf name entry field) :
    mapper.unmapped? entry.2 = none ∧ field.type = (mapper.resolved name entry.1 entry.2).type := by
  obtain ⟨enum, hresolve⟩ := h.type
  obtain ⟨hmapped, heq⟩ := resolve_eq_ok_iff.mp hresolve
  exact ⟨hmapped, congrArg Resolved.type heq⟩

theorem find?_fields (mapper : Mapper) (name identityType column : String) (table : Table)
    (h : column ≠ "_uuid") :
    (Field.identity identityType :: table.columns.entries.map (mapper.fieldOf name)).find?
        (·.column = column) =
      (table.columns.get? column).map fun content => mapper.fieldOf name (column, content) := by
  have hidentity : ¬ (Field.identity identityType).column = column := Ne.symm h
  have hentry : ((fun field : Field => decide (field.column = column)) ∘ mapper.fieldOf name) =
      fun entry => decide (entry.1 = column) := rfl
  rw [List.find?_cons, decide_eq_false hidentity, List.find?_map, hentry, NameMap.find?_entries,
    Option.map_map]
  rfl

/-! ### Enumerations -/

theorem isEnumOf_of_enum {mapper : Mapper} {name : String} {entry : String × Column}
    {e : Enumeration} (husable : mapper.Usable entry)
    (h : (mapper.resolved name entry.1 entry.2).enum = some e) : mapper.IsEnumOf name entry e := by
  have hresolved : mapper.resolve name entry.1 entry.2 =
      .ok ⟨(mapper.resolved name entry.1 entry.2).type, some e⟩ := by
    rw [← h]
    exact resolve_eq_ok_iff.mpr ⟨husable.2, rfl⟩
  unfold resolved enumOf at h
  obtain ⟨values, hvalues, rfl⟩ := Option.map_eq_some_iff.mp h
  have hlength : (values.map (mapper.target.constantName mapper.naming
      (mapper.naming.enumAlias name entry.1))).length = values.length := List.length_map ..
  exact ⟨⟨_, hresolved⟩, rfl, hvalues, hlength, fun i => List.getElem?_map ..,
    Enumeration.constants_unzip hlength⟩

/-- An enumeration has the type of its column's key, in the schema and in the target language. -/
theorem IsEnumOf.type_eq {mapper : Mapper} {name : String} {entry : String × Column}
    {e : Enumeration} (h : mapper.IsEnumOf name entry e) :
    e.atomic = entry.2.key.atomic ∧ mapper.target.atomic e.atomic = some e.type := by
  obtain ⟨type, hresolve⟩ := h.resolved
  obtain ⟨hmapped, hresolved⟩ := resolve_eq_ok_iff.mp hresolve
  obtain ⟨hkey, -⟩ := unmapped?_eq_none_iff.mp hmapped
  obtain ⟨keyType, hkeyType⟩ := Option.isSome_iff_exists.mp hkey
  have henum : some e = mapper.enumOf name entry.1 keyType entry.2.key := by
    have henum := congrArg Resolved.enum hresolved
    simpa [Mapper.resolved, hkeyType] using henum
  simp only [enumOf, h.values, Option.map_some, Option.some.injEq] at henum
  rw [henum]
  exact ⟨rfl, hkeyType⟩

theorem IsEnumOf.exists_of_mem_constantNames {mapper : Mapper} {name constant : String}
    {entry : String × Column} {e : Enumeration} (h : mapper.IsEnumOf name entry e)
    (hmem : constant ∈ e.constantNames) :
    ∃ value, constant = mapper.target.constantName mapper.naming e.name value := by
  obtain ⟨i, hi⟩ := List.mem_iff_getElem?.mp hmem
  rw [h.constantNames i] at hi
  obtain ⟨value, -, heq⟩ := Option.map_eq_some_iff.mp hi
  exact ⟨value, heq.symm⟩

theorem enum_isSome_iff (mapper : Mapper) (name : String) (entry : String × Column) :
    (mapper.resolved name entry.1 entry.2).enum.isSome = entry.2.key.isEnum := by
  unfold resolved enumOf BaseType.isEnum
  rw [Option.isSome_map]

theorem forall₂_isEnumOf {mapper : Mapper} {name : String} {entries : List (String × Column)}
    (h : ∀ entry ∈ entries, mapper.Usable entry) :
    List.Forall₂ (mapper.IsEnumOf name) (entries.filter fun entry => entry.2.key.isEnum)
      (entries.flatMap fun entry => (mapper.resolved name entry.1 entry.2).enum.toList) := by
  induction entries with
  | nil => exact .nil
  | cons entry entries ih =>
    obtain ⟨husable, hrest⟩ := List.forall_mem_cons.mp h
    have hsome := mapper.enum_isSome_iff name entry
    rw [List.filter_cons, List.flatMap_cons, ← hsome]
    cases henum : (mapper.resolved name entry.1 entry.2).enum with
    | none => exact ih hrest
    | some e => exact .cons (isEnumOf_of_enum husable henum) (ih hrest)

theorem enumNames_sublist (mapper : Mapper) (name : String) (entry : String × Column) :
    ((mapper.resolved name entry.1 entry.2).enum.toList.map (·.name)).Sublist
      (mapper.declaredNames name entry) := by
  unfold resolved enumOf declaredNames
  cases entry.2.key.allowed with
  | none => exact .slnil
  | some values => exact List.singleton_sublist.mpr (List.mem_cons_self ..)

theorem count_enumName {mapper : Mapper} {name : String} {entries : List (String × Column)}
    {entry : String × Column} {e : Enumeration}
    (hnodup : (entries.flatMap (mapper.declaredNames name)).Nodup) (hmem : entry ∈ entries)
    (henum : (mapper.resolved name entry.1 entry.2).enum = some e) :
    ((entries.flatMap fun entry => (mapper.resolved name entry.1 entry.2).enum.toList).map
      (·.name)).count e.name = 1 := by
  apply List.count_eq_one_of_mem
  · rw [List.map_flatMap]
    have hsublist : (entries.flatMap fun entry =>
        (mapper.resolved name entry.1 entry.2).enum.toList.map (·.name)).Sublist
          (entries.flatMap (mapper.declaredNames name)) :=
      .flatMap_right entries fun entry _ => mapper.enumNames_sublist name entry
    exact List.Nodup.sublist hsublist hnodup
  · apply List.mem_map_of_mem
    apply List.mem_flatMap.mpr
    exact ⟨entry, hmem, by rw [henum]; exact List.mem_singleton_self e⟩

/-! ### The whole model -/

/-- A table's model has the identity's field, the fields and the enumerations of the columns in
ascending order, and nothing else. -/
theorem contents_of_model {mapper : Mapper} {package name : String} {table : Table} {model : Model}
    (h : mapper.model package name table = .ok model) : mapper.Contents name table model := by
  obtain ⟨-, identityType, hidentity, husable, hdistinct, rfl⟩ := model_eq_ok_iff.mp h
  have hdeclared := ((mapper.draftOf_distinct_iff name identityType table).mp hdistinct).2
  rw [draftOf_fields, draftOf_enums]
  constructor
  case ascending => exact table.columns.names_ascend_bytes
  case fields =>
    refine ⟨_, _, rfl, rfl, rfl, rfl, hidentity, ?_⟩
    rw [List.forall₂_map_right_iff, List.forall₂_same]
    exact fun entry hentry => isFieldOf_fieldOf (husable entry hentry)
  case enums => exact forall₂_isEnumOf husable
  case aliases =>
    intro entry hentry field hfield
    obtain ⟨hmapped, htype⟩ := hfield.type_eq
    refine ⟨by rw [htype]; exact shape_text_eq_resolved hmapped name entry.1, ?_⟩
    intro enumName hname
    obtain ⟨hisEnum, rfl⟩ := Column.eq_of_mem_enumNames_shape hname
    rw [← mapper.enum_isSome_iff name entry] at hisEnum
    obtain ⟨e, henum⟩ := Option.isSome_iff_exists.mp hisEnum
    rw [← (isEnumOf_of_enum (husable entry hentry) henum).name]
    exact count_enumName hdeclared hentry henum
  case lookup =>
    intro hreserved
    constructor
    · intro entry hentry
      have hname : entry.1 ≠ "_uuid" := by
        intro heq
        rw [← heq] at hreserved
        exact hreserved (List.mem_map_of_mem hentry)
      refine ⟨mapper.fieldOf name entry, ?_, isFieldOf_fieldOf (husable entry hentry)⟩
      rw [Model.field?, find?_fields mapper name identityType entry.1 table hname,
        NameMap.get?_eq_some_iff.mpr hentry]
      rfl
    · intro column hcolumn hname
      have hnone : table.columns.get? column = none := by
        by_contra hsome
        obtain ⟨content, hget⟩ := Option.ne_none_iff_exists'.mp hsome
        exact hcolumn (NameMap.mem_names_iff.mpr ⟨content, hget⟩)
      rw [Model.field?, find?_fields mapper name identityType column table hname, hnone]
      rfl

theorem contents_of_qos : ∃ model,
    (Mapper.mk Sample.target .ovsdb).model "vswitchd" "QoS" Sample.qos = .ok model ∧
      (Mapper.mk Sample.target .ovsdb).Contents "QoS" Sample.qos model :=
  ⟨_, rfl, contents_of_model rfl⟩

/-- In a valid database no column takes the identity's place. -/
theorem Contents.field?_of_valid {mapper : Mapper} {db : Database} {name : String} {table : Table}
    {model : Model} (h : mapper.Contents name table model) (hvalid : db.Valid)
    (htable : db.tables.get? name = some table) {entry : String × Column}
    (hentry : entry ∈ table.columns.entries) :
    ∃ field, model.field? entry.1 = some field ∧ mapper.IsFieldOf name entry field := by
  apply (h.lookup _).1 entry hentry
  intro hreserved
  obtain ⟨column, hcolumn⟩ := NameMap.mem_names_iff.mp hreserved
  exact hvalid.names ⟨table, htable, hcolumn⟩ rfl

end Mapper

end OvsdbModels
