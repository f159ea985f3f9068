/-
  OvsdbModels/Proofs/Model/Refusal.lean
  =====================================
  **Why a table has no model.**

  A run over the columns stops at the first column that cannot be added.  Its logs hold, at that
  point, exactly what the columns before it took, so the parties that an error names are the ones that
  collide (`IsTrueOf`).  The columns behind the failing one have no say: cut off anywhere behind it the
  table has the same error, and cut off before it the table has a model (`refusal_of_model`).
-/
import OvsdbModels.Proofs.Model.Contents

namespace OvsdbModels

/-! ### Statements about errors -/

def Declaration.column : Declaration → String
  | enumeration column => column
  | constant _ column => column

/-- The column at which a run stops with the error. -/
def MappingError.column? : MappingError → Option String
  | unsupportedType _ column _ => some column
  | emptyTypeName _ => none
  | emptyFieldName _ column => some column
  | duplicateField _ _ _ second => some second
  | duplicateAlias _ _ _ second => some second
  | duplicateConstant _ column _ _ _ => some column

/-- The table with its first columns alone. -/
def Table.take (table : Table) (n : Nat) : Table :=
  { table with
    columns := ⟨table.columns.entries.take n,
      table.columns.ascending.sublist (List.take_sublist n _)⟩ }

namespace Mapper

/-- All that the columns of a table declare, in ascending order of the columns: for each enumerated
column its alias, and then the constants of its values. -/
def declarations (mapper : Mapper) (name : String) (table : Table) : List (String × Declaration) :=
  table.columns.entries.flatMap fun (column, content) =>
    match content.key.allowed with
    | none => []
    | some values =>
      let enumName := mapper.naming.enumAlias name column
      (enumName, .enumeration column) :: values.map fun value =>
        (mapper.target.constantName mapper.naming enumName value,
          .constant (mapper.target.literal value) column)

/-- What an error says of a table, taken at its word. -/
inductive IsTrueOf (mapper : Mapper) (name : String) (table : Table) : MappingError → Prop
  | emptyTypeName (hname : Naming.typeName name = "") :
    IsTrueOf mapper name table (.emptyTypeName name)
  | unmappedIdentity (hatomic : mapper.target.atomic .uuid = none) :
    IsTrueOf mapper name table (.unsupportedType name "_uuid" "uuid")
  | unmappedType {column : String} {content : Column} {type : AtomicType}
      (hcolumn : table.columns.get? column = some content)
      (htype : mapper.unmapped? content = some type) :
    IsTrueOf mapper name table (.unsupportedType name column type.name)
  | emptyFieldName {column : String} (hcolumn : column ∈ table.columns.names)
      (hname : mapper.naming.normalize column = "") :
    IsTrueOf mapper name table (.emptyFieldName name column)
  | duplicateAlias {first second enumName : String} {content content' : Column}
      (hfirst : table.columns.get? first = some content) (hisEnum : content.key.isEnum)
      (hsecond : table.columns.get? second = some content') (hisEnum' : content'.key.isEnum)
      (hlt : Text.ByteLt first second)
      (hname : mapper.naming.enumAlias name first = enumName)
      (hname' : mapper.naming.enumAlias name second = enumName) :
    IsTrueOf mapper name table (.duplicateAlias name enumName first second)
  | duplicateConstant {column constant : String} {first second : Declaration}
      {earlier later : List (String × Declaration)}
      (horder : mapper.declarations name table = earlier ++ (constant, second) :: later)
      (hcolumn : second.column = column) (hfirst : (constant, first) ∈ earlier) :
    IsTrueOf mapper name table (.duplicateConstant name column constant first second)
  | duplicateIdentity {second : String} (hsecond : second ∈ table.columns.names)
      (hname : mapper.naming.normalize second = "UUID") :
    IsTrueOf mapper name table (.duplicateField name "UUID" "_uuid" second)
  | duplicateField {first second field : String} (hfirst : first ∈ table.columns.names)
      (hsecond : second ∈ table.columns.names) (hlt : Text.ByteLt first second)
      (hname : mapper.naming.normalize first = field)
      (hname' : mapper.naming.normalize second = field) :
    IsTrueOf mapper name table (.duplicateField name field first second)

/-! ### What the logs hold -/

theorem mem_of_lookup {α : Type} {log : List (String × α)} {name : String} {owner : α}
    (h : log.lookup name = some owner) : (name, owner) ∈ log := by
  obtain ⟨before, after, rfl, -⟩ := List.lookup_eq_some_iff.mp h
  exact List.mem_append_right _ List.mem_cons_self

theorem mem_fieldOwners_foldl {mapper : Mapper} {table : String} {entries : List (String × Column)}
    {draft : Model.Draft} {field owner : String}
    (h : (field, owner) ∈ (entries.foldl (mapper.extend table) draft).fieldOwners) :
    (field, owner) ∈ draft.fieldOwners ∨
      ∃ entry ∈ entries, mapper.naming.normalize entry.1 = field ∧ entry.1 = owner := by
  induction entries generalizing draft with
  | nil => exact Or.inl h
  | cons entry entries ih =>
    rcases ih h with hlog | ⟨other, hmem, hother⟩
    · rcases List.mem_cons.mp hlog with heq | hold
      · obtain ⟨rfl, rfl⟩ := Prod.mk.inj heq
        exact Or.inr ⟨entry, List.mem_cons_self, rfl, rfl⟩
      · exact Or.inl hold
    · exact Or.inr ⟨other, List.mem_cons_of_mem _ hmem, hother⟩

theorem mem_aliasOwners_foldl {mapper : Mapper} {table : String} {entries : List (String × Column)}
    {draft : Model.Draft} {enumName owner : String}
    (h : (enumName, owner) ∈ (entries.foldl (mapper.extend table) draft).aliasOwners) :
    (enumName, owner) ∈ draft.aliasOwners ∨
      ∃ entry ∈ entries, entry.1 = owner ∧
        ∃ e, (mapper.resolved table entry.1 entry.2).enum = some e ∧ e.name = enumName := by
  induction entries generalizing draft with
  | nil => exact Or.inl h
  | cons entry entries ih =>
    rcases ih h with hlog | ⟨other, hmem, hother⟩
    · rcases List.mem_append.mp hlog with hnew | hold
      · obtain ⟨e, he, heq⟩ := List.mem_map.mp hnew
        obtain ⟨rfl, rfl⟩ := Prod.mk.inj heq
        exact Or.inr ⟨entry, List.mem_cons_self, rfl, e, Option.mem_toList.mp he, rfl⟩
      · exact Or.inl hold
    · exact Or.inr ⟨other, List.mem_cons_of_mem _ hmem, hother⟩

theorem declared_foldl (mapper : Mapper) (table : String) (entries : List (String × Column))
    (draft : Model.Draft) :
    (entries.foldl (mapper.extend table) draft).declared.reverse =
      draft.declared.reverse ++ entries.flatMap (mapper.declarationsOf table) := by
  refine view_foldl (fun draft => draft.declared.reverse) _ ?_ entries draft
  intro draft entry
  rw [extend, List.reverse_append, List.reverse_reverse]

theorem aliasesDeclared_foldl {mapper : Mapper} {table : String} {entries : List (String × Column)}
    {draft : Model.Draft} (h : draft.AliasesDeclared) :
    (entries.foldl (mapper.extend table) draft).AliasesDeclared := by
  induction entries generalizing draft with
  | nil => exact h
  | cons entry entries ih => exact ih (aliasesDeclared_extend h entry)

theorem declarations_eq (mapper : Mapper) (name : String) (table : Table) :
    mapper.declarations name table =
      table.columns.entries.flatMap (mapper.declarationsOf name) := by
  have hentry : ∀ entry : String × Column, mapper.declarationsOf name entry =
      match entry.2.key.allowed with
      | none => []
      | some values =>
        let enumName := mapper.naming.enumAlias name entry.1
        (enumName, .enumeration entry.1) :: values.map fun value =>
          (mapper.target.constantName mapper.naming enumName value,
            .constant (mapper.target.literal value) entry.1) := by
    intro entry
    unfold declarationsOf resolved enumOf
    cases entry.2.key.allowed with
    | none => rfl
    | some values =>
      have hzip := List.zip_map' (f := mapper.target.constantName mapper.naming
        (mapper.naming.enumAlias name entry.1)) (g := id) (l := values)
      rw [List.map_id] at hzip
      simp [Enumeration.declarations, Enumeration.constants, hzip]
  unfold declarations
  exact List.flatMap_congr fun entry _ => (hentry entry).symm

theorem column_eq_of_mem_declarationsOf {mapper : Mapper} {table name : String}
    {entry : String × Column} {declaration : Declaration}
    (h : (name, declaration) ∈ mapper.declarationsOf table entry) : declaration.column = entry.1 := by
  unfold declarationsOf at h
  cases henum : (mapper.resolved table entry.1 entry.2).enum with
  | none =>
    rw [henum] at h
    exact absurd h List.not_mem_nil
  | some e =>
    rw [henum] at h
    rcases List.mem_cons.mp h with heq | hconstant
    · obtain ⟨-, rfl⟩ := Prod.mk.inj heq
      rfl
    · obtain ⟨constant, -, heq⟩ := List.mem_map.mp hconstant
      obtain ⟨-, rfl⟩ := Prod.mk.inj heq
      rfl

theorem isEnum_of_enum {mapper : Mapper} {table : String} {entry : String × Column} {e : Enumeration}
    (h : (mapper.resolved table entry.1 entry.2).enum = some e) :
    entry.2.key.isEnum = true ∧ e.name = mapper.naming.enumAlias table entry.1 := by
  constructor
  · rw [← mapper.enum_isSome_iff table entry, h]
    rfl
  · unfold resolved enumOf at h
    obtain ⟨values, -, rfl⟩ := Option.map_eq_some_iff.mp h
    rfl

/-! ### The failing step -/

theorem foldlM_declare_eq_error {table column : String} {error : MappingError}
    {declared new : List (String × Declaration)} (hdeclared : (declared.map (·.1)).Nodup)
    (h : new.foldlM (fun log entry => Model.Draft.declare table column log entry.1 entry.2) declared =
      .error error) :
    ∃ earlier constant first second later, new = earlier ++ (constant, second) :: later ∧
      (constant, first) ∈ declared.reverse ++ earlier ∧
        error = .duplicateConstant table column constant first second := by
  obtain ⟨earlier, ⟨constant, second⟩, later, log, hnew, hearlier, hstep⟩ :=
    Attempt.foldlM_eq_error_iff.mp h
  obtain ⟨rfl, -⟩ := (Model.Draft.foldlM_declare_eq_ok_iff _ hdeclared).mp hearlier
  unfold Model.Draft.declare at hstep
  cases hlookup : (earlier.reverse ++ declared).lookup constant with
  | none =>
    simp only [hlookup] at hstep
    exact nomatch hstep
  | some first =>
    simp only [hlookup] at hstep
    have hmem := mem_of_lookup hlookup
    refine ⟨earlier, constant, first, second, later, hnew, ?_, (Except.error.inj hstep).symm⟩
    rw [List.mem_append, List.mem_reverse] at hmem ⊢
    exact hmem.symm

section Step

variable {mapper : Mapper} {name identityType : String} {table : Table}
  {earlier later : List (String × Column)} {entry : String × Column} {error : MappingError}

/-- What the columns `earlier` leave behind. -/
def draftAfter (mapper : Mapper) (name identityType : String) (earlier : List (String × Column)) :
    Model.Draft :=
  earlier.foldl (mapper.extend name) (.start identityType)

theorem get?_of_entries (hcolumns : table.columns.entries = earlier ++ entry :: later) :
    table.columns.get? entry.1 = some entry.2 := by
  rw [NameMap.get?_eq_some_iff, hcolumns]
  exact List.mem_append_right _ List.mem_cons_self

theorem get?_of_mem_earlier (hcolumns : table.columns.entries = earlier ++ entry :: later)
    {other : String × Column} (hother : other ∈ earlier) :
    table.columns.get? other.1 = some other.2 ∧ Text.ByteLt other.1 entry.1 := by
  have hascending := table.columns.ascending
  rw [hcolumns, List.pairwise_append] at hascending
  constructor
  · rw [NameMap.get?_eq_some_iff, hcolumns]
    exact List.mem_append_left _ hother
  · exact Text.lt_iff_byteLt.mp (hascending.2.2 other hother entry List.mem_cons_self)

theorem isTrueOf_of_declare {e : Enumeration}
    (hcolumns : table.columns.entries = earlier ++ entry :: later)
    (hdistinct : (mapper.draftAfter name identityType earlier).Distinct)
    (hresolved : (mapper.resolved name entry.1 entry.2).enum = some e)
    (h : (e.declarations mapper.target entry.1).foldlM
      (fun log entry' => Model.Draft.declare name entry.1 log entry'.1 entry'.2)
      (mapper.draftAfter name identityType earlier).declared = .error error) :
    mapper.IsTrueOf name table error ∧ error.column? = some entry.1 := by
  obtain ⟨own, constant, first, second, rest, hnew, hfirst, rfl⟩ :=
    foldlM_declare_eq_error hdistinct.declared h
  have hdeclarations : mapper.declarationsOf name entry = own ++ (constant, second) :: rest := by
    rw [declarationsOf, hresolved]
    exact hnew
  have horder : mapper.declarations name table =
      (earlier.flatMap (mapper.declarationsOf name) ++ own) ++ (constant, second) ::
        (rest ++ later.flatMap (mapper.declarationsOf name)) := by
    rw [declarations_eq, hcolumns, List.flatMap_append, List.flatMap_cons, hdeclarations]
    simp only [List.append_assoc, List.cons_append]
  have hsecond : (constant, second) ∈ mapper.declarationsOf name entry := by
    rw [hdeclarations]
    exact List.mem_append_right _ List.mem_cons_self
  rw [draftAfter, declared_foldl] at hfirst
  exact ⟨.duplicateConstant horder (column_eq_of_mem_declarationsOf hsecond) hfirst, rfl⟩

theorem isTrueOf_of_addEnum {e : Enumeration}
    (hcolumns : table.columns.entries = earlier ++ entry :: later)
    (hdistinct : (mapper.draftAfter name identityType earlier).Distinct)
    (hresolved : (mapper.resolved name entry.1 entry.2).enum = some e)
    (h : Model.Draft.addEnum mapper.target name entry.1 (mapper.draftAfter name identityType earlier)
      e = .error error) :
    mapper.IsTrueOf name table error ∧ error.column? = some entry.1 := by
  rw [Model.Draft.addEnum_eq] at h
  split at h
  · rename_i first hlookup
    obtain rfl := Except.error.inj h
    rcases mem_aliasOwners_foldl (mem_of_lookup hlookup) with
      hstart | ⟨other, hother, rfl, e', hresolved', hname⟩
    · exact absurd hstart List.not_mem_nil
    · obtain ⟨hget, hlt⟩ := get?_of_mem_earlier hcolumns hother
      obtain ⟨hisEnum, halias⟩ := isEnum_of_enum hresolved
      obtain ⟨hisEnum', halias'⟩ := isEnum_of_enum hresolved'
      exact ⟨.duplicateAlias hget hisEnum' (get?_of_entries hcolumns) hisEnum hlt
        (halias'.symm.trans hname) halias.symm, rfl⟩
  · rcases Attempt.bind_eq_error_iff.mp h with hdeclare | ⟨_, _, hok⟩
    · exact isTrueOf_of_declare hcolumns hdistinct hresolved hdeclare
    · cases hok

theorem isTrueOf_of_addField {draft : Model.Draft} {type : String}
    (hcolumns : table.columns.entries = earlier ++ entry :: later)
    (h : draft.addField name ⟨entry.1, mapper.naming.normalize entry.1, type⟩ = .error error)
    (howners : draft.fieldOwners = (mapper.draftAfter name identityType earlier).fieldOwners) :
    mapper.IsTrueOf name table error ∧ error.column? = some entry.1 := by
  have hentry : entry.1 ∈ table.columns.names :=
    NameMap.mem_names_iff.mpr ⟨_, get?_of_entries hcolumns⟩
  unfold Model.Draft.addField at h
  rw [howners] at h
  split at h
  · rename_i first hlookup
    obtain rfl := Except.error.inj h
    rcases mem_fieldOwners_foldl (mem_of_lookup hlookup) with hstart | ⟨other, hother, hname, rfl⟩
    · obtain ⟨hname, rfl⟩ := Prod.mk.inj (List.mem_singleton.mp hstart)
      have hidentity : mapper.naming.normalize entry.1 = "UUID" := hname
      simp only [hidentity]
      exact ⟨.duplicateIdentity hentry hidentity, rfl⟩
    · obtain ⟨hget, hlt⟩ := get?_of_mem_earlier hcolumns hother
      have hother : other.1 ∈ table.columns.names := NameMap.mem_names_iff.mpr ⟨_, hget⟩
      exact ⟨.duplicateField hother hentry hlt hname rfl, rfl⟩
  · cases h

/-- A failing step names what collides, and the column that it was taken for. -/
theorem isTrueOf_of_addColumn (hcolumns : table.columns.entries = earlier ++ entry :: later)
    (hdistinct : (mapper.draftAfter name identityType earlier).Distinct)
    (h : mapper.addColumn name (mapper.draftAfter name identityType earlier) entry.1 entry.2 =
      .error error) :
    mapper.IsTrueOf name table error ∧ error.column? = some entry.1 := by
  have hget := get?_of_entries hcolumns
  rw [addColumn_eq] at h
  by_cases hfield : mapper.naming.normalize entry.1 = ""
  · rw [if_pos hfield] at h
    obtain rfl := Except.error.inj h
    exact ⟨.emptyFieldName (NameMap.mem_names_iff.mpr ⟨_, hget⟩) hfield, rfl⟩
  rw [if_neg hfield] at h
  rcases Attempt.bind_eq_error_iff.mp h with hresolve | ⟨resolution, hresolve, h⟩
  · rw [resolve_eq] at hresolve
    cases hunmapped : mapper.unmapped? entry.2 with
    | none =>
      rw [hunmapped] at hresolve
      exact nomatch hresolve
    | some type =>
      rw [hunmapped] at hresolve
      obtain rfl := Except.error.inj hresolve
      exact ⟨.unmappedType hget hunmapped, rfl⟩
  obtain ⟨-, rfl⟩ := resolve_eq_ok_iff.mp hresolve
  rcases Attempt.bind_eq_error_iff.mp h with henum | ⟨draft, henum, hadd⟩
  · cases hresolved : (mapper.resolved name entry.1 entry.2).enum with
    | none =>
      rw [hresolved] at henum
      exact nomatch henum
    | some e =>
      rw [hresolved] at henum
      exact isTrueOf_of_addEnum hcolumns hdistinct hresolved henum
  · have haliases : (mapper.draftAfter name identityType earlier).AliasesDeclared :=
      aliasesDeclared_foldl fun _ hmem => absurd hmem List.not_mem_nil
    obtain ⟨rfl, -⟩ := (addEnum?_eq_ok_iff hdistinct.declared haliases).mp henum
    exact isTrueOf_of_addField hcolumns hadd rfl

end Step

/-! ### The whole run -/

/-- The run over the columns, started on the identity's field. -/
def draft? (mapper : Mapper) (name identityType : String) (entries : List (String × Column)) :
    Except MappingError Model.Draft :=
  entries.foldlM (fun draft entry => mapper.addColumn name draft entry.1 entry.2)
    (.start identityType)

theorem draft?_eq_ok_iff {mapper : Mapper} {name identityType : String}
    {entries : List (String × Column)} {draft : Model.Draft} :
    mapper.draft? name identityType entries = .ok draft ↔
      (∀ entry ∈ entries, mapper.Usable entry) ∧
        draft = mapper.draftAfter name identityType entries ∧ draft.Distinct :=
  addColumns_eq_ok_iff ⟨List.nodup_singleton _, List.nodup_nil⟩
    fun _ hmem => absurd hmem List.not_mem_nil

/-- A table whose type and identity have names has what the run over its columns gives. -/
theorem model_eq_draft? {mapper : Mapper} {name identityType : String}
    (hname : Naming.typeName name ≠ "") (hidentity : mapper.target.atomic .uuid = some identityType)
    (package : String) (table : Table) :
    mapper.model package name table =
      (mapper.draft? name identityType table.columns.entries).map fun draft =>
        { table := name, package, structName := Naming.typeName name
          fields := draft.fields, enums := draft.enums } := by
  rw [model_eq, if_neg hname, atomic_of_some hidentity]
  rfl

/-- An error is true of the table.  Where it is about a column, the run stops there: a table with the
columns before that one has a model, and a table with that column too has the same error. -/
theorem refusal_of_model {mapper : Mapper} {package name : String} {table : Table}
    {error : MappingError} (h : mapper.model package name table = .error error) :
    mapper.IsTrueOf name table error ∧
      (Naming.typeName name ≠ "" → (mapper.target.atomic .uuid).isSome →
        ∃ i column, table.columns.names[i]? = some column ∧ error.column? = some column ∧
          (∀ n ≤ i, ∃ model, mapper.model package name (table.take n) = .ok model) ∧
          ∀ n > i, mapper.model package name (table.take n) = .error error) := by
  by_cases hname : Naming.typeName name = ""
  · rw [model_eq, if_pos hname] at h
    obtain rfl := Except.error.inj h
    exact ⟨.emptyTypeName hname, fun hne => absurd hname hne⟩
  cases hidentity : mapper.target.atomic .uuid with
  | none =>
    rw [model_eq, if_neg hname, atomic_of_none hidentity] at h
    obtain rfl := Except.error.inj h
    exact ⟨.unmappedIdentity hidentity, fun _ hsome => absurd hsome Bool.false_ne_true⟩
  | some identityType =>
    have hmodel := model_eq_draft? hname hidentity package
    rw [hmodel table] at h
    have hrun : mapper.draft? name identityType table.columns.entries = .error error := by
      cases hrun : mapper.draft? name identityType table.columns.entries with
      | ok draft =>
        rw [hrun] at h
        exact nomatch h
      | error error' =>
        rw [hrun] at h
        exact congrArg Except.error (Except.error.inj h)
    obtain ⟨earlier, entry, later, draft, hcolumns, hearlier, hstep⟩ :=
      Attempt.foldlM_eq_error_iff.mp hrun
    obtain ⟨-, rfl, hdistinct⟩ := draft?_eq_ok_iff.mp hearlier
    obtain ⟨htrue, hcolumn⟩ := isTrueOf_of_addColumn hcolumns hdistinct hstep
    refine ⟨htrue, fun _ _ => ⟨earlier.length, entry.1, ?_, hcolumn, ?_, ?_⟩⟩
    · simp [NameMap.names, hcolumns]
    · intro n hn
      have htake : earlier = table.columns.entries.take n ++ earlier.drop n := by
        rw [hcolumns, List.take_append_of_le_length hn, List.take_append_drop]
      rw [htake] at hearlier
      obtain ⟨draft, hdraft⟩ := Attempt.exists_foldlM_eq_ok_of_append hearlier
      have hrun : mapper.draft? name identityType (table.take n).columns.entries = .ok draft := hdraft
      have hprefix := hmodel (table.take n)
      rw [hrun] at hprefix
      exact ⟨_, hprefix⟩
    · intro n hn
      obtain ⟨k, rfl⟩ := Nat.exists_eq_add_of_lt hn
      have htake : (table.take (earlier.length + k + 1)).columns.entries =
          earlier ++ entry :: later.take k := by
        simp only [Table.take, hcolumns, Nat.add_assoc, List.take_length_add_append,
          List.take_succ_cons]
      have hfail : mapper.draft? name identityType (earlier ++ entry :: later.take k) =
          .error error :=
        Attempt.foldlM_eq_error_iff.mpr ⟨_, _, _, _, rfl, hearlier, hstep⟩
      rw [hmodel, htake, hfail]
      rfl

/-- Two enumerations, where a constant of the first has the name of the second one's alias. -/
def clashing : Table := .ofColumns
  [("mode", Sample.columnOf (.scalar (Sample.oneOf ["basic", "type"]))),
    ("mode_type", Sample.columnOf (.scalar (Sample.oneOf ["basic"]))),
    ("name", .plain .string)]

def clash : MappingError :=
  .duplicateConstant "T" "mode_type" "TModeType" (.constant "\"type\"" "mode")
    (.enumeration "mode_type")

theorem refusal_of_clashing :
    (Mapper.mk Sample.target .ovsdb).model "p" "T" clashing = .error clash ∧
      (Mapper.mk Sample.target .ovsdb).IsTrueOf "T" clashing clash ∧
      ∃ i column, clashing.columns.names[i]? = some column ∧ clash.column? = some column ∧
        (∀ n ≤ i, ∃ model, (Mapper.mk Sample.target .ovsdb).model "p" "T" (clashing.take n) =
          .ok model) ∧
        ∀ n > i, (Mapper.mk Sample.target .ovsdb).model "p" "T" (clashing.take n) = .error clash := by
  have h : (Mapper.mk Sample.target .ovsdb).model "p" "T" clashing = .error clash := rfl
  obtain ⟨htrue, hstop⟩ := refusal_of_model h
  exact ⟨h, htrue, hstop (by decide) rfl⟩

end Mapper

end OvsdbModels
