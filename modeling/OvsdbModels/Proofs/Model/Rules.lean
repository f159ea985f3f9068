/-
  OvsdbModels/Proofs/Model/Rules.lean
  ===================================
  **The rules that give a column its type.**

  The rules look at the parts of a column's type, its base types and its bounds, and never at its kind.
  An unmapped key comes before an unmapped value, a value type before the bounds, and the bounds before
  the enumeration (`Resolves`).  What a column resolves to is what the rules say, so the kind, which is
  worked out elsewhere, never disagrees with them (`resolve_eq_iff`).
-/
import OvsdbModels.Proofs.Model.Resolution

namespace OvsdbModels

/-! ### Kinds and bounds -/

theorem ColumnType.isSingle_iff (type : ColumnType) :
    type.isSingle = true ↔ type.min = 1 ∧ type.max = .bounded 1 := by
  simp [isSingle]

namespace Column

theorem isEnum_of_kind {column : Column} (h : column.kind = .enum) : column.key.isEnum = true := by
  cases hvalue : column.value with
  | some base =>
    rw [kind_of_value_eq_some hvalue] at h
    exact nomatch h
  | none =>
    rw [kind_of_value_eq_none hvalue] at h
    split at h
    · split at h
      · assumption
      · exact nomatch h
    · exact nomatch h

theorem value_ne_none_of_kind {column : Column} (h : column.kind = .map) : column.value ≠ none := by
  intro hvalue
  rw [kind_of_value_eq_none hvalue] at h
  split at h
  · split at h
    · exact nomatch h
    · exact nomatch h
  · exact nomatch h

end Column

/-! ### Rules -/

namespace Mapper

/-- The type of a column's elements, where the key's own type is `keyType`: the alias of the column's
enumeration, if it has one. -/
def elementType (mapper : Mapper) (table name keyType : String) (column : Column) : String :=
  if column.key.isEnum then mapper.naming.enumAlias table name else keyType

/-- What a column resolves to, by the rules in the order of their priority.  The enumeration depends on
the key alone. -/
inductive Resolves (mapper : Mapper) (table name : String) (column : Column) :
    Except MappingError Resolved → Prop
  | keyUnmapped (hkey : mapper.target.atomic column.key.atomic = none) :
    Resolves mapper table name column (.error (.unsupportedType table name column.key.atomic.name))
  | valueUnmapped {keyType : String} {base : BaseType}
      (hkey : mapper.target.atomic column.key.atomic = some keyType)
      (hvalue : column.value = some base) (hbase : mapper.target.atomic base.atomic = none) :
    Resolves mapper table name column (.error (.unsupportedType table name base.atomic.name))
  | mapping {keyType valueType : String} {base : BaseType}
      (hkey : mapper.target.atomic column.key.atomic = some keyType)
      (hvalue : column.value = some base)
      (hbase : mapper.target.atomic base.atomic = some valueType) :
    Resolves mapper table name column
      (.ok ⟨mapper.target.mapping keyType valueType, mapper.enumOf table name keyType column.key⟩)
  | sequence {keyType : String} (hkey : mapper.target.atomic column.key.atomic = some keyType)
      (hvalue : column.value = none)
      (hbounds : ¬ (column.type.min = 1 ∧ column.type.max = .bounded 1)) :
    Resolves mapper table name column
      (.ok ⟨mapper.target.sequence (mapper.elementType table name keyType column),
        mapper.enumOf table name keyType column.key⟩)
  | single {keyType : String} (hkey : mapper.target.atomic column.key.atomic = some keyType)
      (hvalue : column.value = none)
      (hbounds : column.type.min = 1 ∧ column.type.max = .bounded 1) :
    Resolves mapper table name column
      (.ok ⟨mapper.elementType table name keyType column,
        mapper.enumOf table name keyType column.key⟩)

/-! ### Every rule is kept -/

theorem text?_elementShape {mapper : Mapper} {column : Column} {keyType : String}
    (hkey : mapper.target.atomic column.key.atomic = some keyType) (table name : String) :
    (column.elementShape (mapper.naming.enumAlias table name)).text? mapper.target =
      some (mapper.elementType table name keyType column) := by
  unfold Column.elementShape elementType
  split
  · rfl
  · exact hkey

/-- A column whose types are mapped resolves to the text of its shape. -/
theorem resolve_of_text? {mapper : Mapper} {table name keyType text : String} {column : Column}
    (hkey : mapper.target.atomic column.key.atomic = some keyType)
    (hvalue : ∀ base ∈ column.value, (mapper.target.atomic base.atomic).isSome)
    (htext : (column.shape (mapper.naming.enumAlias table name)).text? mapper.target = some text) :
    mapper.resolve table name column =
      .ok ⟨text, mapper.enumOf table name keyType column.key⟩ := by
  obtain ⟨type, htype, hresolve⟩ := resolve_of_mapped hkey hvalue table name
  rw [htext] at htype
  rw [hresolve, Option.some.inj htype]

theorem Resolves.resolve_eq {mapper : Mapper} {table name : String} {column : Column}
    {outcome : Except MappingError Resolved} (h : mapper.Resolves table name column outcome) :
    mapper.resolve table name column = outcome := by
  have hnone : column.value = none →
      ∀ base ∈ column.value, (mapper.target.atomic base.atomic).isSome := by
    intro hvalue base hbase
    rw [hvalue] at hbase
    exact nomatch hbase
  cases h with
  | keyUnmapped hkey => exact resolve_of_key_unmapped hkey table name
  | valueUnmapped hkey hvalue hbase =>
    exact resolve_of_value_unmapped hkey hvalue hbase table name
  | @mapping keyType valueType base hkey hvalue hbase =>
    apply resolve_of_text? hkey
    · intro base' hbase'
      rw [hvalue] at hbase'
      obtain rfl := Option.some.inj hbase'
      rw [hbase]
      rfl
    · simp only [Column.shape, hvalue, Shape.text?, hkey, hbase]
  | sequence hkey hvalue hbounds =>
    apply resolve_of_text? hkey (hnone hvalue)
    have hsingle : ¬ column.type.isSingle = true := fun h => hbounds ((ColumnType.isSingle_iff _).mp h)
    simp only [Column.shape, hvalue, if_neg hsingle, Shape.text?, text?_elementShape hkey,
      Option.map_some]
  | single hkey hvalue hbounds =>
    apply resolve_of_text? hkey (hnone hvalue)
    have hsingle : column.type.isSingle = true := (ColumnType.isSingle_iff _).mpr hbounds
    simp only [Column.shape, hvalue, if_pos hsingle, text?_elementShape hkey]

/-! ### Some rule applies -/

theorem exists_resolves (mapper : Mapper) (table name : String) (column : Column) :
    ∃ outcome, mapper.Resolves table name column outcome := by
  cases hkey : mapper.target.atomic column.key.atomic with
  | none => exact ⟨_, .keyUnmapped hkey⟩
  | some keyType =>
    cases hvalue : column.value with
    | some base =>
      cases hbase : mapper.target.atomic base.atomic with
      | none => exact ⟨_, .valueUnmapped hkey hvalue hbase⟩
      | some valueType => exact ⟨_, .mapping hkey hvalue hbase⟩
    | none =>
      by_cases hbounds : column.type.min = 1 ∧ column.type.max = .bounded 1
      · exact ⟨_, .single hkey hvalue hbounds⟩
      · exact ⟨_, .sequence hkey hvalue hbounds⟩

/-! ### Branches that no column reaches -/

/-- A restricted key has an enumeration, or an error. -/
theorem enumeration_ne_none {mapper : Mapper} {key : BaseType} (h : key.isEnum = true)
    (table name : String) : mapper.enumeration table name key ≠ .ok none := by
  obtain ⟨values, hvalues⟩ := Option.isSome_iff_exists.mp h
  unfold enumeration
  rw [hvalues]
  cases hatomic : mapper.target.atomic key.atomic with
  | none =>
    simp only [atomic_of_none hatomic]
    exact nofun
  | some keyType =>
    simp only [atomic_of_some hatomic]
    exact nofun

/-- A column resolves to what the rules say.  The kind of a column never promises an enumeration or a
value type that is not there. -/
theorem resolve_eq_iff (mapper : Mapper) (table name : String) (column : Column)
    (outcome : Except MappingError Resolved) :
    (mapper.resolve table name column = outcome ↔ mapper.Resolves table name column outcome) ∧
      ¬ (column.kind = .enum ∧ mapper.enumeration table name column.key = .ok none) ∧
      ¬ (column.kind = .map ∧ column.value = none) := by
  refine ⟨⟨?_, Resolves.resolve_eq⟩, ?_, ?_⟩
  · rintro rfl
    obtain ⟨outcome, houtcome⟩ := exists_resolves mapper table name column
    rw [houtcome.resolve_eq]
    exact houtcome
  · rintro ⟨hkind, henumeration⟩
    exact enumeration_ne_none (Column.isEnum_of_kind hkind) table name henumeration
  · rintro ⟨hkind, hvalue⟩
    exact Column.value_ne_none_of_kind hkind hvalue

end Mapper

end OvsdbModels
