/-
  OvsdbModels/Proofs/Model/Single.lean
  ====================================
  **A table with one column.**

  No name is taken before the first column's enumeration declares its own, so the enumeration fails
  exactly if two of its own names are the same.  The steps around it may fail for other reasons: the
  table or the column has no name, or a type is unmapped (`declaresTwice_model_iff`).
-/
import OvsdbModels.Proofs.Model.Refusal

namespace OvsdbModels

/-! ### A name that is declared twice -/

/-- The outcome of an attempt that a column of the table has stopped, since it declares a name that is
taken. -/
def DeclaresTwice {α : Type} (table column : String) (outcome : Except MappingError α) : Prop :=
  ∃ name first second, outcome = .error (.duplicateConstant table column name first second)

section

variable {α β : Type} {table column : String}

theorem not_declaresTwice_ok (a : α) : ¬ DeclaresTwice table column (.ok a) :=
  fun ⟨_, _, _, h⟩ => nomatch h

theorem declaresTwice_bind_iff {x : Except MappingError α} {f : α → Except MappingError β} :
    DeclaresTwice table column (x >>= f) ↔
      DeclaresTwice table column x ∨ ∃ a, x = .ok a ∧ DeclaresTwice table column (f a) := by
  simp only [DeclaresTwice, Attempt.bind_eq_error_iff]
  constructor
  · rintro ⟨name, first, second, h | ⟨a, hx, h⟩⟩
    · exact Or.inl ⟨name, first, second, h⟩
    · exact Or.inr ⟨a, hx, name, first, second, h⟩
  · rintro (⟨name, first, second, h⟩ | ⟨a, hx, name, first, second, h⟩)
    · exact ⟨name, first, second, Or.inl h⟩
    · exact ⟨name, first, second, Or.inr ⟨a, hx, h⟩⟩

theorem declaresTwice_foldlM_iff {declared : List (String × Declaration)}
    (hdeclared : (declared.map (·.1)).Nodup) (new : List (String × Declaration)) :
    DeclaresTwice table column
        (new.foldlM (fun log entry => Model.Draft.declare table column log entry.1 entry.2)
          declared) ↔
      ¬ ((new.reverse ++ declared).map (·.1)).Nodup := by
  have hok : ∀ declared',
      new.foldlM (fun log entry => Model.Draft.declare table column log entry.1 entry.2) declared =
          .ok declared' ↔
        declared' = new.reverse ++ declared ∧ (declared'.map (·.1)).Nodup :=
    fun _ => Model.Draft.foldlM_declare_eq_ok_iff new hdeclared
  cases hrun : new.foldlM (fun log entry => Model.Draft.declare table column log entry.1 entry.2)
      declared with
  | ok declared' =>
    obtain ⟨rfl, hnodup⟩ := (hok declared').mp hrun
    exact ⟨fun h => absurd h (not_declaresTwice_ok _), fun h => absurd hnodup h⟩
  | error error =>
    constructor
    · rintro - hnodup
      rw [(hok _).mpr ⟨rfl, hnodup⟩] at hrun
      exact nomatch hrun
    · rintro -
      obtain ⟨-, name, first, second, -, -, -, rfl⟩ := Mapper.foldlM_declare_eq_error hdeclared hrun
      exact ⟨name, first, second, rfl⟩

/-- The names of the first enumeration collide only with each other. -/
theorem declaresTwice_addEnum_iff {target : Target} {draft : Model.Draft} {e : Enumeration}
    (haliases : draft.aliasOwners = []) (hdeclared : draft.declared = []) :
    DeclaresTwice table column (draft.addEnum target table column e) ↔
      ¬ ((e.declarations target column).map (·.1)).Nodup := by
  have hlookup : draft.aliasOwners.lookup e.name = none := by
    rw [haliases]
    rfl
  have hempty : (draft.declared.map (·.1)).Nodup := by
    rw [hdeclared]
    exact List.nodup_nil
  rw [Model.Draft.addEnum_eq, hlookup, declaresTwice_bind_iff, declaresTwice_foldlM_iff hempty,
    hdeclared, List.append_nil, List.map_reverse, List.nodup_reverse]
  exact or_iff_left fun ⟨_, _, h⟩ => not_declaresTwice_ok _ h

theorem not_declaresTwice_addField {draft : Model.Draft} {field : Field} :
    ¬ DeclaresTwice table column (draft.addField table field) := by
  rintro ⟨name, first, second, h⟩
  unfold Model.Draft.addField at h
  split at h
  · cases h
  · cases h

end

namespace Mapper

variable {mapper : Mapper} {name column : String} {content : Column}

theorem not_declaresTwice_resolve :
    ¬ DeclaresTwice name column (mapper.resolve name column content) := by
  rintro ⟨_, _, _, h⟩
  rw [resolve_eq] at h
  split at h
  · cases h
  · cases h

theorem declaresTwice_addEnum?_iff {draft : Model.Draft} (haliases : draft.aliasOwners = [])
    (hdeclared : draft.declared = []) :
    DeclaresTwice name column
        (mapper.addEnum? name column draft (mapper.resolved name column content).enum) ↔
      ¬ (mapper.declaredNames name (column, content)).Nodup := by
  rw [← names_declarationsOf, declarationsOf]
  cases (mapper.resolved name column content).enum with
  | none => exact ⟨fun h => absurd h (not_declaresTwice_ok _), fun h => absurd List.nodup_nil h⟩
  | some e => exact declaresTwice_addEnum_iff haliases hdeclared

/-- The first column stops at its own names, if it is usable. -/
theorem declaresTwice_addColumn_iff {draft : Model.Draft} (haliases : draft.aliasOwners = [])
    (hdeclared : draft.declared = []) :
    DeclaresTwice name column (mapper.addColumn name draft column content) ↔
      mapper.Usable (column, content) ∧ ¬ (mapper.declaredNames name (column, content)).Nodup := by
  rw [addColumn_eq]
  by_cases hfield : mapper.naming.normalize column = ""
  · rw [if_pos hfield]
    constructor
    · rintro ⟨_, _, _, h⟩
      exact nomatch h
    · exact fun h => absurd hfield h.1.1
  rw [if_neg hfield, declaresTwice_bind_iff, or_iff_right not_declaresTwice_resolve]
  simp only [resolve_eq_ok_iff, declaresTwice_bind_iff]
  constructor
  · rintro ⟨_, ⟨hmapped, rfl⟩, htwice | ⟨_, -, htwice⟩⟩
    · exact ⟨⟨hfield, hmapped⟩, (declaresTwice_addEnum?_iff haliases hdeclared).mp htwice⟩
    · exact absurd htwice not_declaresTwice_addField
  · rintro ⟨⟨-, hmapped⟩, hnodup⟩
    exact ⟨_, ⟨hmapped, rfl⟩, Or.inl ((declaresTwice_addEnum?_iff haliases hdeclared).mpr hnodup)⟩

/-- A table with one column stops there exactly if the column is usable and its own names are not all
different: no name is taken before. -/
theorem declaresTwice_model_iff {table : Table} {identityType : String}
    (hidentity : mapper.target.atomic .uuid = some identityType)
    (hcolumns : table.columns.entries = [(column, content)]) (package : String) :
    DeclaresTwice name column (mapper.model package name table) ↔
      Naming.typeName name ≠ "" ∧ mapper.Usable (column, content) ∧
        ¬ (mapper.declaredNames name (column, content)).Nodup := by
  by_cases hname : Naming.typeName name = ""
  · rw [model_eq, if_pos hname]
    constructor
    · rintro ⟨_, _, _, h⟩
      exact nomatch h
    · exact fun h => absurd hname h.1
  have hrun : mapper.model package name table =
      mapper.addColumn name (.start identityType) column content >>= fun draft => .ok
        { table := name, package, structName := Naming.typeName name
          fields := draft.fields, enums := draft.enums } := by
    rw [model_eq, if_neg hname, atomic_of_some hidentity, hcolumns, Attempt.ok_bind]
    simp only [List.foldlM_cons, List.foldlM_nil, bind_pure]
  rw [hrun, declaresTwice_bind_iff, or_iff_left fun ⟨_, _, h⟩ => not_declaresTwice_ok _ h,
    declaresTwice_addColumn_iff rfl rfl]
  exact (and_iff_right hname).symm

end Mapper

end OvsdbModels
