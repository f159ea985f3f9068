/-
  OvsdbModels/Proofs/Schema/Validation.lean
  =========================================
  **Which databases are valid, and what the error of the others is.**

  The violations of a database are listed in the order of its check: the version, and then the faults
  of the columns, table by table.  The list has all violations and no other
  (`mem_violations_iff`), and it ascends (`violations_ascend`), so its head is the least violation.  The
  check gives the error of the head (`firstError?_eq`).
-/
import OvsdbModels.Proofs.Schema.Faults

namespace OvsdbModels

/-! ### Ascending lists -/

/-- The head of an ascending list is its least element. -/
theorem head?_eq_some_iff_least {α : Type} {before : α → α → Prop} {items : List α} {item : α}
    (hascends : items.Pairwise before) (hasymm : ∀ a b, before a b → ¬ before b a) :
    items.head? = some item ↔ item ∈ items ∧ ∀ other ∈ items, other = item ∨ before item other := by
  cases items with
  | nil => simp
  | cons first rest =>
    have hfirst := (List.pairwise_cons.mp hascends).1
    rw [List.head?_cons, Option.some.injEq]
    constructor
    · rintro rfl
      refine ⟨List.mem_cons_self .., ?_⟩
      intro other hother
      exact (List.mem_cons.mp hother).imp_right (hfirst other)
    · rintro ⟨hmem, hleast⟩
      rcases List.mem_cons.mp hmem with rfl | hrest
      · rfl
      · rcases hleast first (List.mem_cons_self ..) with heq | hbefore
        · exact heq
        · exact absurd hbefore (hasymm _ _ (hfirst item hrest))

/-! ### The error of the first fault -/

namespace BaseType

theorem head?_literalFaults (side : Side) (base : BaseType) :
    (base.literalFaults side).head? =
      (if base.atomic.isSupported then
        ((base.allowed.getD []).zipIdx.find? fun entry => !entry.1.isOfType base.atomic)
      else none).map fun entry => .literal side entry.2 entry.1 base.atomic := by
  unfold literalFaults
  split
  · rw [List.head?_map, List.head?_filter]
  · rfl

theorem head?_referenceFaults (db : Database) (side : Side) (base : BaseType) :
    (base.referenceFaults db side).head? =
      match base.refTable with
      | some refTable =>
        if db.tables.contains refTable then none else some (.reference side refTable)
      | none => none := by
  unfold referenceFaults
  cases base.refTable with
  | none => rfl
  | some refTable => cases hcontains : db.tables.contains refTable <;> simp [hcontains]

theorem find?_zipIdx {values : List Atom} (stray : Atom → Bool) :
    (values.zipIdx.find? fun entry => stray entry.1).map (·.1) = values.find? stray := by
  conv_rhs => rw [← List.zipIdx_map_fst 0 values, List.find?_map]
  rfl

theorem baseError?_eq (db : Database) (source table name : String) (side : Side) (base : BaseType) :
    db.baseError? source table name base =
      (base.faults db side).head?.map fun fault =>
        (Violation.column table name fault).error source := by
  unfold Database.baseError? faults
  rw [List.head?_append, head?_literalFaults, head?_referenceFaults]
  by_cases hsupported : base.atomic.isSupported = true
  · simp only [if_pos hsupported, ← find?_zipIdx fun literal => !literal.isOfType base.atomic]
    cases (base.allowed.getD []).zipIdx.find? fun entry => !entry.1.isOfType base.atomic with
    | some entry => rfl
    | none =>
      cases base.refTable with
      | none => rfl
      | some refTable =>
      cases hcontains : db.tables.contains refTable
      · simp [hcontains]
        rfl
      · simp [hcontains]
  · simp only [if_neg hsupported]
    cases base.refTable with
    | none => rfl
    | some refTable =>
      cases hcontains : db.tables.contains refTable
      · simp [hcontains]
        rfl
      · simp [hcontains]

end BaseType

namespace Database

theorem columnError?_eq (db : Database) (source table name : String) (column : Column) :
    db.columnError? source table name column =
      (column.faults db name).head?.map fun fault =>
        (Violation.column table name fault).error source := by
  unfold columnError? Column.faults
  by_cases hname : isReservedName name = true
  · rw [if_pos hname, if_pos hname]
    rfl
  · rw [if_neg hname, if_neg hname, List.nil_append, List.head?_append, ColumnType.bases,
      List.findSome?_cons, BaseType.baseError?_eq db source table name .key, ← Column.key,
      ← Column.value]
    cases (column.key.faults db .key).head? with
    | some fault => rfl
    | none =>
      cases column.value with
      | none => rfl
      | some base =>
        simp [BaseType.baseError?_eq db source table name .value]

/-! ### Violations -/

/-- The violations of a database, in the order of its check. -/
def violations (db : Database) : List Violation :=
  (if isVersion db.version then [] else [.version db.version]) ++
    db.tables.entries.flatMap fun (table, content) =>
      content.columns.entries.flatMap fun (name, column) =>
        (column.faults db name).map (.column table name)

theorem mem_violations_iff {db : Database} {violation : Violation} :
    violation ∈ db.violations ↔ db.Violates violation := by
  unfold violations
  rw [List.mem_append]
  simp only [List.mem_flatMap, List.mem_map]
  constructor
  · rintro (hversion | ⟨⟨table, content⟩, htable, ⟨name, column⟩, hcolumn, fault, hfault, rfl⟩)
    · split at hversion
      · exact absurd hversion List.not_mem_nil
      · rename_i hnot
        obtain rfl := List.mem_singleton.mp hversion
        exact .version fun h => hnot (isVersion_iff.mpr h)
    · have hhas : db.HasColumn table name column :=
        ⟨content, NameMap.get?_eq_some_iff.mpr htable, NameMap.get?_eq_some_iff.mpr hcolumn⟩
      exact .column hhas (Column.mem_faults_iff.mp hfault)
  · intro h
    cases h with
    | version hnot =>
      left
      rw [if_neg fun h => hnot (isVersion_iff.mp h)]
      exact List.mem_singleton_self _
    | column hcolumn hfault =>
      right
      obtain ⟨content, htable, hcolumn⟩ := hcolumn
      exact ⟨_, NameMap.get?_eq_some_iff.mp htable, _, NameMap.get?_eq_some_iff.mp hcolumn, _,
        Column.mem_faults_iff.mpr hfault, rfl⟩

theorem columns_ascend (table : String) (db : Database) (columns : NameMap Column) :
    (columns.entries.flatMap fun (name, column) =>
      (column.faults db name).map (.column table name)).Pairwise Violation.Before := by
  apply List.pairwise_flatMap.mpr
  constructor
  · rintro ⟨name, column⟩ -
    rw [List.pairwise_map]
    exact (column.faults_ascend db name).imp .fault
  · apply columns.ascending.imp
    intro first second hlt violation hviolation other hother
    obtain ⟨fault, -, rfl⟩ := List.mem_map.mp hviolation
    obtain ⟨fault', -, rfl⟩ := List.mem_map.mp hother
    exact .column (Text.lt_iff_byteLt.mp hlt)

theorem violations_ascend (db : Database) : db.violations.Pairwise Violation.Before := by
  have htables : (db.tables.entries.flatMap fun (table, content) =>
      content.columns.entries.flatMap fun (name, column) =>
        (column.faults db name).map (.column table name)).Pairwise Violation.Before := by
    apply List.pairwise_flatMap.mpr
    constructor
    · rintro ⟨table, content⟩ -
      exact columns_ascend table db content.columns
    · apply db.tables.ascending.imp
      intro first second hlt violation hviolation other hother
      simp only [List.mem_flatMap, List.mem_map] at hviolation hother
      obtain ⟨entry, -, fault, -, rfl⟩ := hviolation
      obtain ⟨entry', -, fault', -, rfl⟩ := hother
      exact .table (Text.lt_iff_byteLt.mp hlt)
  apply List.pairwise_append.mpr
  refine ⟨?_, htables, ?_⟩
  · split
    · exact .nil
    · exact List.pairwise_singleton _ _
  · intro first hfirst second hsecond
    split at hfirst
    · exact absurd hfirst List.not_mem_nil
    · obtain rfl := List.mem_singleton.mp hfirst
      simp only [List.mem_flatMap, List.mem_map] at hsecond
      obtain ⟨table, -, column, -, fault, -, rfl⟩ := hsecond
      exact .version

/-- The check gives the error of the first violation. -/
theorem firstError?_eq (db : Database) (source : String) :
    db.firstError? source = db.violations.head?.map (·.error source) := by
  unfold firstError? violations
  simp only [sortedTables_eq, Table.sortedColumns_eq]
  by_cases hversion : isVersion db.version = true
  · simp only [hversion, Bool.not_true, Bool.false_eq_true, if_false, if_true, List.nil_append,
      List.head?_flatMap, List.head?_map, List.map_findSome?, Function.comp_def, Option.map_map,
      columnError?_eq]
  · simp only [hversion]
    rfl

/-! ### The least violation -/

theorem head?_violations_iff {db : Database} {violation : Violation} :
    db.violations.head? = some violation ↔
      db.Violates violation ∧
        ∀ other, db.Violates other → other = violation ∨ violation.Before other := by
  rw [head?_eq_some_iff_least db.violations_ascend fun _ _ => Violation.Before.asymm]
  simp only [mem_violations_iff]

theorem firstError?_eq_none_iff {db : Database} {source : String} :
    db.firstError? source = none ↔ db.Valid := by
  rw [firstError?_eq, Option.map_eq_none_iff, List.head?_eq_none_iff, List.eq_nil_iff_forall_not_mem,
    valid_iff]
  simp only [mem_violations_iff]

/-- A database passes its check exactly if it is valid; otherwise the error is that of the least
violation, which comes before all others. -/
theorem firstError?_spec (db : Database) (source : String) :
    (db.firstError? source = none ↔ db.Valid) ∧
      ∀ error, db.firstError? source = some error ↔
        ∃ violation, db.Violates violation ∧
          (∀ other, db.Violates other → other = violation ∨ violation.Before other) ∧
          error = violation.error source := by
  refine ⟨firstError?_eq_none_iff, ?_⟩
  intro error
  rw [firstError?_eq, Option.map_eq_some_iff]
  constructor
  · rintro ⟨violation, hhead, rfl⟩
    obtain ⟨hviolates, hbefore⟩ := head?_violations_iff.mp hhead
    exact ⟨violation, hviolates, hbefore, rfl⟩
  · rintro ⟨violation, hviolates, hbefore, rfl⟩
    exact ⟨violation, head?_violations_iff.mpr ⟨hviolates, hbefore⟩, rfl⟩

/-- Only valid databases are read. -/
theorem parse_eq_ok_iff {source : String} {db : Database} :
    parse source = .ok db ↔ Json.readAll Database.reader source = .ok db ∧ db.Valid := by
  unfold parse
  cases Json.readAll Database.reader source with
  | error problem => exact ⟨fun h => (nomatch h), fun h => (nomatch h.1)⟩
  | ok read =>
    cases herror : read.firstError? source with
    | none =>
      have hvalid := firstError?_eq_none_iff.mp herror
      simp only [herror]
      constructor
      · intro h
        obtain rfl := Except.ok.inj h
        exact ⟨rfl, hvalid⟩
      · rintro ⟨h, -⟩
        obtain rfl := Except.ok.inj h
        rfl
    | some error =>
      simp only [herror]
      constructor
      · exact fun h => nomatch h
      · rintro ⟨h, hvalid⟩
        obtain rfl := Except.ok.inj h
        rw [firstError?_eq_none_iff.mpr hvalid] at herror
        exact nomatch herror

end Database

end OvsdbModels
