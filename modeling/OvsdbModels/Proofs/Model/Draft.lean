/-
  OvsdbModels/Proofs/Model/Draft.lean
  ===================================
  **What a run over the columns of a table leaves behind.**

  A draft keeps logs of the names that were taken.  Every check of a step asks whether a name is in
  a log already, so a step succeeds exactly if the logs that it would leave have no name twice
  (`addColumn_eq_ok_iff`).  The check of aliases is implied, since every alias is also declared.  A
  run succeeds exactly if all its columns are usable and the logs at its end have no name twice, and
  then the draft is the one that `extend` gives column by column (`addColumns_eq_ok_iff`).
-/
import Mathlib.Data.List.Nodup
import OvsdbModels.Model.Mapping
import OvsdbModels.Proofs.Attempt
import OvsdbModels.Proofs.Model.Resolution

namespace OvsdbModels

open Attempt

/-! ### Declarations -/

/-- What an enumeration declares, by name: its alias and then its constants. -/
def Enumeration.declarations (target : Target) (column : String) (e : Enumeration) :
    List (String × Declaration) :=
  (e.name, .enumeration column) ::
    e.constants.map fun (name, value) => (name, .constant (target.literal value) column)

namespace Model.Draft

theorem lookup_eq_none_iff {α : Type} {log : List (String × α)} {name : String} :
    log.lookup name = none ↔ name ∉ log.map (·.1) := by
  rw [List.lookup_eq_none_iff, List.mem_map]
  constructor
  · rintro h ⟨entry, hmem, rfl⟩
    exact (bne_iff_ne.mp (h entry hmem)) rfl
  · intro h entry hmem
    exact bne_iff_ne.mpr fun heq => h ⟨entry, hmem, heq.symm⟩

theorem mem_of_lookup_eq_some {α : Type} {log : List (String × α)} {name : String} {owner : α}
    (h : log.lookup name = some owner) : name ∈ log.map (·.1) := by
  by_contra hnot
  rw [lookup_eq_none_iff.mpr hnot] at h
  exact nomatch h

theorem declare_eq_ok_iff {table column name : String} {declaration : Declaration}
    {declared declared' : List (String × Declaration)} :
    declare table column declared name declaration = .ok declared' ↔
      declared' = (name, declaration) :: declared ∧ name ∉ declared.map (·.1) := by
  rw [declare]
  cases hlookup : declared.lookup name with
  | none =>
    constructor
    · intro heq
      obtain rfl := Except.ok.inj heq
      exact ⟨rfl, lookup_eq_none_iff.mp hlookup⟩
    · rintro ⟨rfl, -⟩
      rfl
  | some first =>
    exact ⟨fun heq => (nomatch heq), fun h => absurd (mem_of_lookup_eq_some hlookup) h.2⟩

/-- Declaring names one after another succeeds exactly if the log at the end has no name twice. -/
theorem foldlM_declare_eq_ok_iff {table column : String}
    {declared declared' : List (String × Declaration)} (new : List (String × Declaration))
    (h : (declared.map (·.1)).Nodup) :
    new.foldlM (fun log entry => declare table column log entry.1 entry.2) declared =
        .ok declared' ↔
      declared' = new.reverse ++ declared ∧ (declared'.map (·.1)).Nodup := by
  induction new generalizing declared with
  | nil =>
    constructor
    · intro heq
      obtain rfl := Except.ok.inj heq
      exact ⟨rfl, h⟩
    · rintro ⟨rfl, -⟩
      rfl
  | cons entry new ih =>
    have hlog : (entry :: new).reverse ++ declared = new.reverse ++ entry :: declared := by
      rw [List.reverse_cons, List.append_assoc, List.singleton_append]
    rw [List.foldlM_cons, bind_eq_ok_iff, hlog]
    constructor
    · rintro ⟨log, hstep, hrest⟩
      obtain ⟨rfl, hfresh⟩ := declare_eq_ok_iff.mp hstep
      have hnew : ((entry :: declared).map (·.1)).Nodup := List.nodup_cons.mpr ⟨hfresh, h⟩
      exact (ih hnew).mp hrest
    · rintro ⟨rfl, hnodup⟩
      have hstep : ((entry :: declared).map (·.1)).Nodup := by
        rw [List.map_append] at hnodup
        exact hnodup.of_append_right
      refine ⟨_, declare_eq_ok_iff.mpr ⟨rfl, (List.nodup_cons.mp hstep).1⟩, ?_⟩
      exact (ih hstep).mpr ⟨rfl, hnodup⟩

/-! ### One enumeration -/

/-- No name stands twice in the logs that are checked. -/
structure Distinct (draft : Model.Draft) : Prop where
  fields : (draft.fieldOwners.map (·.1)).Nodup
  declared : (draft.declared.map (·.1)).Nodup

def AliasesDeclared (draft : Model.Draft) : Prop :=
  ∀ name ∈ draft.aliasOwners.map (·.1), name ∈ draft.declared.map (·.1)

def withEnum (target : Target) (column : String) (draft : Model.Draft) (e : Enumeration) :
    Model.Draft :=
  { draft with
    enums := draft.enums ++ [e]
    aliasOwners := (e.name, column) :: draft.aliasOwners
    declared := (e.declarations target column).reverse ++ draft.declared }

theorem addEnum_eq (target : Target) (table column : String) (draft : Model.Draft)
    (e : Enumeration) :
    addEnum target table column draft e =
      match draft.aliasOwners.lookup e.name with
      | some first => .error (.duplicateAlias table e.name first column)
      | none =>
        (e.declarations target column).foldlM
            (fun log entry => declare table column log entry.1 entry.2) draft.declared >>=
          fun declared => .ok { draft with
            enums := draft.enums ++ [e]
            aliasOwners := (e.name, column) :: draft.aliasOwners
            declared } := by
  unfold addEnum Enumeration.declarations
  cases draft.aliasOwners.lookup e.name with
  | some first => rfl
  | none =>
    simp only [List.foldlM_cons, List.foldlM_map, bind_assoc]
    rfl

theorem addEnum_eq_ok_iff {target : Target} {table column : String} {draft draft' : Model.Draft}
    {e : Enumeration} (hdeclared : (draft.declared.map (·.1)).Nodup)
    (haliases : draft.AliasesDeclared) :
    addEnum target table column draft e = .ok draft' ↔
      draft' = draft.withEnum target column e ∧ (draft'.declared.map (·.1)).Nodup := by
  rw [addEnum_eq]
  cases hlookup : draft.aliasOwners.lookup e.name with
  | none =>
    simp only [bind_eq_ok_iff, foldlM_declare_eq_ok_iff _ hdeclared]
    constructor
    · rintro ⟨declared, ⟨rfl, hnodup⟩, heq⟩
      obtain rfl := Except.ok.inj heq
      exact ⟨rfl, hnodup⟩
    · rintro ⟨rfl, hnodup⟩
      exact ⟨_, ⟨rfl, hnodup⟩, rfl⟩
  | some first =>
    have htaken : e.name ∈ draft.declared.map (·.1) :=
      haliases e.name (mem_of_lookup_eq_some hlookup)
    constructor
    · exact fun heq => nomatch heq
    · rintro ⟨rfl, hnodup⟩
      have hlog : (draft.withEnum target column e).declared =
          ((e.constants.map fun (name, value) =>
            (name, Declaration.constant (target.literal value) column)).reverse) ++
            (e.name, .enumeration column) :: draft.declared := by
        simp [withEnum, Enumeration.declarations]
      rw [hlog, List.map_append, List.map_cons] at hnodup
      exact absurd htaken (List.nodup_cons.mp hnodup.of_append_right).1

end Model.Draft

/-! ### One column -/

namespace Mapper

def fieldOf (mapper : Mapper) (table : String) (entry : String × Column) : Field :=
  ⟨entry.1, mapper.naming.normalize entry.1, (mapper.resolved table entry.1 entry.2).type⟩

def declarationsOf (mapper : Mapper) (table : String) (entry : String × Column) :
    List (String × Declaration) :=
  ((mapper.resolved table entry.1 entry.2).enum.map
    (·.declarations mapper.target entry.1)).getD []

/-- Whether a column has a field name, and types in the target language. -/
def Usable (mapper : Mapper) (entry : String × Column) : Prop :=
  mapper.naming.normalize entry.1 ≠ "" ∧ mapper.unmapped? entry.2 = none

def extend (mapper : Mapper) (table : String) (draft : Model.Draft) (entry : String × Column) :
    Model.Draft where
  fields := draft.fields ++ [mapper.fieldOf table entry]
  enums := draft.enums ++ (mapper.resolved table entry.1 entry.2).enum.toList
  fieldOwners := (mapper.naming.normalize entry.1, entry.1) :: draft.fieldOwners
  aliasOwners := (mapper.resolved table entry.1 entry.2).enum.toList.map (fun e => (e.name, entry.1)) ++
    draft.aliasOwners
  declared := (mapper.declarationsOf table entry).reverse ++ draft.declared

theorem addField_eq_ok_iff {table : String} {draft draft' : Model.Draft} {field : Field}
    (h : (draft.fieldOwners.map (·.1)).Nodup) :
    draft.addField table field = .ok draft' ↔
      draft' = { draft with
        fields := draft.fields ++ [field]
        fieldOwners := (field.name, field.column) :: draft.fieldOwners } ∧
      (draft'.fieldOwners.map (·.1)).Nodup := by
  unfold Model.Draft.addField
  cases hlookup : draft.fieldOwners.lookup field.name with
  | none =>
    constructor
    · intro heq
      obtain rfl := Except.ok.inj heq
      exact ⟨rfl, List.nodup_cons.mpr ⟨Model.Draft.lookup_eq_none_iff.mp hlookup, h⟩⟩
    · rintro ⟨rfl, -⟩
      rfl
  | some first =>
    constructor
    · exact fun heq => nomatch heq
    · rintro ⟨rfl, hnodup⟩
      exact absurd (Model.Draft.mem_of_lookup_eq_some hlookup) (List.nodup_cons.mp hnodup).1

def addEnum? (mapper : Mapper) (table name : String) (draft : Model.Draft) :
    Option Enumeration → Except MappingError Model.Draft
  | some e => draft.addEnum mapper.target table name e
  | none => .ok draft

theorem addColumn_eq (mapper : Mapper) (table : String) (draft : Model.Draft) (name : String)
    (column : Column) :
    mapper.addColumn table draft name column =
      if mapper.naming.normalize name = "" then .error (.emptyFieldName table name)
      else
        mapper.resolve table name column >>= fun resolution =>
          mapper.addEnum? table name draft resolution.enum >>= fun draft =>
            draft.addField table ⟨name, mapper.naming.normalize name, resolution.type⟩ := by
  unfold addColumn
  by_cases hname : mapper.naming.normalize name = ""
  · rw [if_pos hname]
    simp only [hname]
    rfl
  · have hempty : ¬ (mapper.naming.normalize name).isEmpty = true := by
      rwa [String.isEmpty_iff]
    rw [if_neg hname]
    simp only [hempty]
    refine bind_congr fun resolution => ?_
    cases resolution.enum with
    | some e => rfl
    | none => rfl

theorem addEnum?_eq_ok_iff {mapper : Mapper} {table name : String} {draft draft' : Model.Draft}
    {enum : Option Enumeration} (hdeclared : (draft.declared.map (·.1)).Nodup)
    (haliases : draft.AliasesDeclared) :
    mapper.addEnum? table name draft enum = .ok draft' ↔
      draft' = { draft with
        enums := draft.enums ++ enum.toList
        aliasOwners := enum.toList.map (fun e => (e.name, name)) ++ draft.aliasOwners
        declared := ((enum.map (·.declarations mapper.target name)).getD []).reverse ++
          draft.declared } ∧
      (draft'.declared.map (·.1)).Nodup := by
  cases enum with
  | some e => exact Model.Draft.addEnum_eq_ok_iff hdeclared haliases
  | none =>
    have hsame : { draft with
        enums := draft.enums ++ []
        aliasOwners := [] ++ draft.aliasOwners
        declared := [] ++ draft.declared } = draft := by
      rw [List.append_nil, List.nil_append, List.nil_append]
    constructor
    · intro heq
      obtain rfl := Except.ok.inj heq
      exact ⟨hsame.symm, hdeclared⟩
    · rintro ⟨rfl, -⟩
      exact congrArg Except.ok hsame.symm

/-- A column can be added exactly if it is usable and the logs with its names have no name twice. -/
theorem addColumn_eq_ok_iff {mapper : Mapper} {table : String} {draft draft' : Model.Draft}
    {name : String} {column : Column} (hdistinct : draft.Distinct)
    (haliases : draft.AliasesDeclared) :
    mapper.addColumn table draft name column = .ok draft' ↔
      mapper.Usable (name, column) ∧ draft' = mapper.extend table draft (name, column) ∧
        draft'.Distinct := by
  rw [addColumn_eq]
  by_cases hname : mapper.naming.normalize name = ""
  · rw [if_pos hname]
    exact ⟨fun heq => (nomatch heq), fun h => absurd hname h.1.1⟩
  · rw [if_neg hname]
    simp only [bind_eq_ok_iff, resolve_eq_ok_iff]
    constructor
    · rintro ⟨resolution, ⟨hmapped, rfl⟩, middle, henum, hfield⟩
      obtain ⟨rfl, hdeclared⟩ := (addEnum?_eq_ok_iff hdistinct.declared haliases).mp henum
      obtain ⟨rfl, hfields⟩ := (addField_eq_ok_iff (by exact hdistinct.fields)).mp hfield
      exact ⟨⟨hname, hmapped⟩, rfl, hfields, hdeclared⟩
    · rintro ⟨husable, rfl, hafter⟩
      refine ⟨_, ⟨husable.2, rfl⟩, _,
        (addEnum?_eq_ok_iff hdistinct.declared haliases).mpr ⟨rfl, hafter.declared⟩, ?_⟩
      exact (addField_eq_ok_iff (by exact hdistinct.fields)).mpr ⟨rfl, hafter.fields⟩

/-! ### A run over columns -/

theorem aliasesDeclared_extend {mapper : Mapper} {table : String} {draft : Model.Draft}
    (h : draft.AliasesDeclared) (entry : String × Column) :
    (mapper.extend table draft entry).AliasesDeclared := by
  intro name hname
  rw [extend, List.map_append, List.mem_append] at hname ⊢
  rcases hname with hnew | hold
  · left
    unfold declarationsOf
    cases henum : (mapper.resolved table entry.1 entry.2).enum with
    | none => rw [henum] at hnew; exact absurd hnew List.not_mem_nil
    | some e =>
      rw [henum] at hnew
      obtain rfl := List.mem_singleton.mp hnew
      rw [List.map_reverse, List.mem_reverse]
      exact List.mem_cons_self ..
  · exact Or.inr (h name hold)

theorem distinct_of_extend {mapper : Mapper} {table : String} {draft : Model.Draft}
    {entry : String × Column} (h : (mapper.extend table draft entry).Distinct) : draft.Distinct where
  fields := (List.nodup_cons.mp h.fields).2
  declared := by
    have hdeclared := h.declared
    rw [extend, List.map_append] at hdeclared
    exact hdeclared.of_append_right

theorem distinct_of_foldl_extend {mapper : Mapper} {table : String}
    {entries : List (String × Column)} {draft : Model.Draft}
    (h : (entries.foldl (mapper.extend table) draft).Distinct) : draft.Distinct := by
  induction entries generalizing draft with
  | nil => exact h
  | cons entry entries ih => exact distinct_of_extend (ih h)

/-- A run succeeds exactly if every column is usable and the logs at its end have no name twice. -/
theorem addColumns_eq_ok_iff {mapper : Mapper} {table : String} {entries : List (String × Column)}
    {draft draft' : Model.Draft} (hdistinct : draft.Distinct) (haliases : draft.AliasesDeclared) :
    entries.foldlM (fun draft entry => mapper.addColumn table draft entry.1 entry.2) draft =
        .ok draft' ↔
      (∀ entry ∈ entries, mapper.Usable entry) ∧
        draft' = entries.foldl (mapper.extend table) draft ∧ draft'.Distinct := by
  induction entries generalizing draft with
  | nil =>
    constructor
    · intro heq
      obtain rfl := Except.ok.inj heq
      exact ⟨fun _ hmem => absurd hmem List.not_mem_nil, rfl, hdistinct⟩
    · rintro ⟨-, rfl, -⟩
      rfl
  | cons entry entries ih =>
    rw [List.foldlM_cons, bind_eq_ok_iff]
    constructor
    · rintro ⟨middle, hstep, hrest⟩
      obtain ⟨husable, rfl, hmiddle⟩ := (addColumn_eq_ok_iff hdistinct haliases).mp hstep
      obtain ⟨husables, heq, hafter⟩ :=
        (ih hmiddle (aliasesDeclared_extend haliases entry)).mp hrest
      exact ⟨List.forall_mem_cons.mpr ⟨husable, husables⟩, heq, hafter⟩
    · rintro ⟨husables, rfl, hafter⟩
      obtain ⟨husable, husables⟩ := List.forall_mem_cons.mp husables
      -- the logs only grow, so they have no name twice after the first column either
      have hmiddle : (mapper.extend table draft entry).Distinct := distinct_of_foldl_extend hafter
      refine ⟨_, (addColumn_eq_ok_iff hdistinct haliases).mpr ⟨husable, rfl, hmiddle⟩, ?_⟩
      exact (ih hmiddle (aliasesDeclared_extend haliases entry)).mpr ⟨husables, rfl, hafter⟩

/-- What a run appends to a view of its state, if each step appends something. -/
theorem view_foldl {σ α β : Type} {step : σ → α → σ} (view : σ → List β) (gives : α → List β)
    (h : ∀ state item, view (step state item) = view state ++ gives item) (items : List α)
    (state : σ) : view (items.foldl step state) = view state ++ items.flatMap gives := by
  induction items generalizing state with
  | nil => exact (List.append_nil _).symm
  | cons item items ih => rw [List.foldl_cons, ih, h, List.append_assoc, List.flatMap_cons]

/-! ### A table -/

def draftOf (mapper : Mapper) (name identityType : String) (table : Table) : Model.Draft :=
  table.columns.entries.foldl (mapper.extend name) (Model.Draft.start identityType)

theorem draftOf_fields (mapper : Mapper) (name identityType : String) (table : Table) :
    (mapper.draftOf name identityType table).fields =
      .identity identityType :: table.columns.entries.map (mapper.fieldOf name) := by
  have hstep : ∀ (draft : Model.Draft) (entry : String × Column),
      (mapper.extend name draft entry).fields = draft.fields ++ [mapper.fieldOf name entry] :=
    fun _ _ => rfl
  rw [draftOf, view_foldl _ _ hstep, List.map_eq_flatMap]
  rfl

theorem draftOf_enums (mapper : Mapper) (name identityType : String) (table : Table) :
    (mapper.draftOf name identityType table).enums =
      table.columns.entries.flatMap fun entry =>
        (mapper.resolved name entry.1 entry.2).enum.toList := by
  have hstep : ∀ (draft : Model.Draft) (entry : String × Column),
      (mapper.extend name draft entry).enums =
        draft.enums ++ (mapper.resolved name entry.1 entry.2).enum.toList :=
    fun _ _ => rfl
  rw [draftOf, view_foldl _ _ hstep]
  rfl

theorem draftOf_fieldNames (mapper : Mapper) (name identityType : String) (table : Table) :
    ((mapper.draftOf name identityType table).fieldOwners.map (·.1)).reverse =
      identityName :: table.columns.names.map mapper.naming.normalize := by
  have hstep : ∀ (draft : Model.Draft) (entry : String × Column),
      ((mapper.extend name draft entry).fieldOwners.map (·.1)).reverse =
        (draft.fieldOwners.map (·.1)).reverse ++ [mapper.naming.normalize entry.1] :=
    fun _ _ => List.reverse_cons
  have hrun := view_foldl (fun draft => (draft.fieldOwners.map (·.1)).reverse) _ hstep
    table.columns.entries (Model.Draft.start identityType)
  rw [← List.map_eq_flatMap] at hrun
  rw [draftOf, hrun, NameMap.names, List.map_map]
  rfl

theorem draftOf_declaredNames (mapper : Mapper) (name identityType : String) (table : Table) :
    ((mapper.draftOf name identityType table).declared.map (·.1)).reverse =
      table.columns.entries.flatMap fun entry => (mapper.declarationsOf name entry).map (·.1) := by
  have hstep : ∀ (draft : Model.Draft) (entry : String × Column),
      ((mapper.extend name draft entry).declared.map (·.1)).reverse =
        (draft.declared.map (·.1)).reverse ++ (mapper.declarationsOf name entry).map (·.1) := by
    intro draft entry
    rw [extend, List.map_append, List.reverse_append, List.map_reverse, List.reverse_reverse]
  exact view_foldl (fun draft => (draft.declared.map (·.1)).reverse) _ hstep
    table.columns.entries (Model.Draft.start identityType)

theorem model_eq (mapper : Mapper) (package name : String) (table : Table) :
    mapper.model package name table =
      if Naming.typeName name = "" then .error (.emptyTypeName name)
      else
        mapper.atomic name identityColumn .uuid >>= fun identityType =>
          table.columns.entries.foldlM
              (fun draft entry => mapper.addColumn name draft entry.1 entry.2)
              (Model.Draft.start identityType) >>= fun draft =>
            .ok {
              table := name, package, structName := Naming.typeName name
              fields := draft.fields, enums := draft.enums } := by
  unfold model
  rw [table.sortedColumns_eq]
  by_cases hname : Naming.typeName name = ""
  · simp only [hname]
    rfl
  · have hempty : ¬ (Naming.typeName name).isEmpty = true := by
      rwa [String.isEmpty_iff]
    rw [if_neg hname]
    simp only [hempty]
    rfl

/-- A table has a model exactly if its type and its identity have names, every column is usable and
the run over the columns takes no name twice. -/
theorem model_eq_ok_iff {mapper : Mapper} {package name : String} {table : Table} {result : Model} :
    mapper.model package name table = .ok result ↔
      Naming.typeName name ≠ "" ∧
      ∃ identityType, mapper.target.atomic .uuid = some identityType ∧
        (∀ entry ∈ table.columns.entries, mapper.Usable entry) ∧
        (mapper.draftOf name identityType table).Distinct ∧
        result = {
          table := name, package, structName := Naming.typeName name
          fields := (mapper.draftOf name identityType table).fields
          enums := (mapper.draftOf name identityType table).enums } := by
  rw [model_eq]
  by_cases hname : Naming.typeName name = ""
  · rw [if_pos hname]
    exact ⟨fun heq => (nomatch heq), fun h => absurd hname h.1⟩
  · rw [if_neg hname, bind_eq_ok_iff]
    have hrun : ∀ identityType draft,
        table.columns.entries.foldlM
            (fun draft entry => mapper.addColumn name draft entry.1 entry.2)
            (Model.Draft.start identityType) = .ok draft ↔
          (∀ entry ∈ table.columns.entries, mapper.Usable entry) ∧
            draft = mapper.draftOf name identityType table ∧ draft.Distinct :=
      fun identityType draft => addColumns_eq_ok_iff
        ⟨List.nodup_singleton _, List.nodup_nil⟩ fun _ hmem => absurd hmem List.not_mem_nil
    constructor
    · rintro ⟨identityType, hatomic, hmodel⟩
      obtain ⟨draft, hdraft, heq⟩ := bind_eq_ok_iff.mp hmodel
      obtain ⟨husable, rfl, hdistinct⟩ := (hrun identityType draft).mp hdraft
      exact ⟨hname, identityType, atomic_eq_ok_iff.mp hatomic, husable, hdistinct,
        (Except.ok.inj heq).symm⟩
    · rintro ⟨-, identityType, hatomic, husable, hdistinct, rfl⟩
      refine ⟨identityType, atomic_eq_ok_iff.mpr hatomic, bind_eq_ok_iff.mpr ?_⟩
      exact ⟨_, (hrun identityType _).mpr ⟨husable, rfl, hdistinct⟩, rfl⟩

theorem models_eq_ok_iff {mapper : Mapper} {package : String} {db : Database}
    {models : List Model} :
    mapper.models package db = .ok models ↔
      List.Forall₂ (fun entry model => mapper.model package entry.1 entry.2 = .ok model)
        db.tables.entries models := by
  rw [Mapper.models, db.sortedTables_eq, mapM_eq_ok_iff]

end Mapper

end OvsdbModels
