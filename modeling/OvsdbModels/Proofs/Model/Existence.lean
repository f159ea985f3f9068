/-
  OvsdbModels/Proofs/Model/Existence.lean
  =======================================
  **Which tables have a model.**

  A table has a model exactly if its own name and its columns' names give names, its atomic types are
  mapped and no name is taken twice.  Two lists are compared: the names of the fields, with the
  identity's, and the names that the enumerations declare, over all columns at once.
-/
import OvsdbModels.Proofs.Model.Draft

namespace OvsdbModels

namespace Mapper

/-- The names that a column declares: the alias of its enumeration and the constants of the values,
a value that is listed twice counted twice. -/
def declaredNames (mapper : Mapper) (table : String) (entry : String × Column) : List String :=
  match entry.2.key.allowed with
  | none => []
  | some values =>
    mapper.naming.enumAlias table entry.1 ::
      values.map (mapper.target.constantName mapper.naming (mapper.naming.enumAlias table entry.1))

theorem names_declarationsOf (mapper : Mapper) (table : String) (entry : String × Column) :
    (mapper.declarationsOf table entry).map (·.1) = mapper.declaredNames table entry := by
  unfold declarationsOf declaredNames resolved enumOf
  cases entry.2.key.allowed with
  | none => rfl
  | some values =>
    have hlength : (values.map (mapper.target.constantName mapper.naming
        (mapper.naming.enumAlias table entry.1))).length ≤ values.length :=
      Nat.le_of_eq (List.length_map ..)
    simp only [Option.map_some, Option.getD_some, Enumeration.declarations, Enumeration.constants,
      List.map_cons, List.map_map]
    exact congrArg _ (List.map_fst_zip hlength)

theorem draftOf_distinct_iff (mapper : Mapper) (name identityType : String) (table : Table) :
    (mapper.draftOf name identityType table).Distinct ↔
      (identityName :: table.columns.names.map mapper.naming.normalize).Nodup ∧
        (table.columns.entries.flatMap (mapper.declaredNames name)).Nodup := by
  have hdeclared := mapper.draftOf_declaredNames name identityType table
  simp only [names_declarationsOf] at hdeclared
  rw [← mapper.draftOf_fieldNames name identityType, ← hdeclared, List.nodup_reverse,
    List.nodup_reverse]
  exact ⟨fun h => ⟨h.fields, h.declared⟩, fun h => ⟨h.1, h.2⟩⟩

/-- A table has a model exactly if all its names are names, all its atomic types are mapped, no field
name stands twice and no name is declared twice. -/
theorem exists_model_iff (mapper : Mapper) (package name : String) (table : Table) :
    (∃ model, mapper.model package name table = .ok model) ↔
      Naming.typeName name ≠ "" ∧
      (mapper.target.atomic .uuid).isSome ∧
      (∀ column ∈ table.columns.names, mapper.naming.normalize column ≠ "") ∧
      (∀ entry ∈ table.columns.entries,
        (mapper.target.atomic entry.2.key.atomic).isSome ∧
          ∀ base ∈ entry.2.value, (mapper.target.atomic base.atomic).isSome) ∧
      ("UUID" :: table.columns.names.map mapper.naming.normalize).Nodup ∧
      (table.columns.entries.flatMap (mapper.declaredNames name)).Nodup := by
  simp only [model_eq_ok_iff, draftOf_distinct_iff, Usable, unmapped?_eq_none_iff]
  constructor
  · rintro ⟨model, hname, identityType, hidentity, husable, ⟨hfields, hdeclared⟩, -⟩
    refine ⟨hname, Option.isSome_iff_exists.mpr ⟨identityType, hidentity⟩, ?_, ?_, hfields, hdeclared⟩
    · intro column hcolumn
      obtain ⟨entry, hentry, rfl⟩ := List.mem_map.mp hcolumn
      exact (husable entry hentry).1
    · exact fun entry hentry => (husable entry hentry).2
  · rintro ⟨hname, hidentity, hcolumns, hmapped, hfields, hdeclared⟩
    obtain ⟨identityType, hidentity⟩ := Option.isSome_iff_exists.mp hidentity
    have husable : ∀ entry ∈ table.columns.entries,
        mapper.naming.normalize entry.1 ≠ "" ∧
          (mapper.target.atomic entry.2.key.atomic).isSome ∧
            ∀ base ∈ entry.2.value, (mapper.target.atomic base.atomic).isSome :=
      fun entry hentry =>
        ⟨hcolumns entry.1 (List.mem_map_of_mem hentry), hmapped entry hentry⟩
    exact ⟨_, hname, identityType, hidentity, husable, ⟨hfields, hdeclared⟩, rfl⟩

end Mapper

end OvsdbModels
