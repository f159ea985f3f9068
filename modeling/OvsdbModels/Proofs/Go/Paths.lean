/-
  OvsdbModels/Proofs/Go/Paths.lean
  ================================
  **Where generated files go.**

  A file is named for its table, in lower case, and a preview has one file for each table of the job
  (`preview_eq_ok_iff`).  The name is not checked: it is free of slashes only if the table's name is
  (`isFileName_fileName_iff`), and two tables whose names differ in letter case share a file
  (`fileName_inj`).
-/
import OvsdbModels.Files.Path
import OvsdbModels.Proofs.Go.Selection

namespace OvsdbModels

open Attempt

/-! ### Names of files -/

/-- Whether a path is the name of a file and nothing else. -/
def Files.IsFileName (path : String) : Prop :=
  path ≠ "" ∧ path ≠ "." ∧ path ≠ ".." ∧ '/' ∉ path.toList

theorem Naming.toList_fileName (table extension : String) :
    (fileName table extension).toList =
      Text.lowerAll table.toList ++ '.' :: extension.toList := by
  rw [fileName, String.toList_append, String.toList_append, String.toList_ofList, List.append_assoc]
  rfl

theorem Naming.fileName_inj {table table' extension : String} :
    fileName table extension = fileName table' extension ↔
      Text.lowerAll table.toList = Text.lowerAll table'.toList := by
  rw [← String.toList_inj, toList_fileName, toList_fileName, List.append_left_inj]

theorem Naming.isFileName_fileName_iff {table : String} :
    Files.IsFileName (fileName table Go.extension) ↔ '/' ∉ Text.lowerAll table.toList := by
  -- whatever stands before it, the extension is longer than `..`
  have hlength : ∀ path : String, path.length < 3 → fileName table Go.extension ≠ path := by
    rintro path hpath rfl
    rw [← String.length_toList, toList_fileName, List.length_append] at hpath
    exact absurd hpath (Nat.not_lt.mpr (Nat.le_add_left ..))
  have hslash : '/' ∈ (fileName table Go.extension).toList ↔ '/' ∈ Text.lowerAll table.toList := by
    rw [toList_fileName, List.mem_append, or_iff_left (by decide)]
  rw [Files.IsFileName, hslash]
  exact ⟨fun h => h.2.2.2, fun h =>
    ⟨hlength _ (by decide), hlength _ (by decide), hlength _ (by decide), h⟩⟩

/-! ### Joining -/

theorem Files.joinPath_inj {dir a b : String} (ha : IsFileName a) (hb : IsFileName b) :
    joinPath dir a = joinPath dir b ↔ a = b := by
  unfold joinPath
  rw [isAbsolute_eq_false ha.2.2.2, isAbsolute_eq_false hb.2.2.2]
  simp only [Bool.false_eq_true, if_false]
  split
  · exact String.append_right_inj _
  · exact String.append_right_inj _

/-! ### Files of a preview -/

namespace Go.Job

theorem tables_sublist {job : Job} {entries : List (String × Table)}
    (h : job.tables = .ok entries) : entries.Sublist job.database.tables.entries := by
  unfold tables at h
  split at h
  · obtain rfl := Except.ok.inj h
    rw [job.database.sortedTables_eq]
  · split at h
    · cases h
    · obtain rfl := Except.ok.inj h
      rw [NameMap.select_eq_filter]
      exact List.filter_sublist

/-- Whether a file is what the job gives for a table. -/
def IsFileOf (job : Job) (entry : String × Table) (file : File) : Prop :=
  ∃ model, mapper.model job.package entry.1 entry.2 = .ok model ∧
    file = ⟨Naming.fileName entry.1 extension, render job.template model⟩

theorem preview_eq (job : Job) :
    job.preview = job.tables >>= fun entries => entries.mapM fun entry =>
      ((mapper.model job.package entry.1 entry.2).map job.file).mapError .mapping := by
  have hfiles : ∀ entries : List (String × Table),
      (entries.mapM fun entry => (mapper.model job.package entry.1 entry.2).mapError .mapping).map
          (List.map job.file) =
        entries.mapM fun entry =>
          ((mapper.model job.package entry.1 entry.2).map job.file).mapError JobError.mapping := by
    intro entries
    rw [mapM_translate, ← mapM_mapError]
    cases entries.mapM fun entry => mapper.model job.package entry.1 entry.2 with
    | error e => rfl
    | ok models => rfl
  unfold preview models
  cases job.tables with
  | error e => rfl
  | ok entries => exact hfiles entries

/-- A preview has one file for each of the job's tables, in their order. -/
theorem preview_eq_ok_iff {job : Job} {files : List File} :
    job.preview = .ok files ↔
      ∃ entries, job.tables = .ok entries ∧ List.Forall₂ job.IsFileOf entries files := by
  have hfile : ∀ (entry : String × Table) (file : File),
      ((mapper.model job.package entry.1 entry.2).map job.file).mapError JobError.mapping =
        .ok file ↔ job.IsFileOf entry file := by
    intro entry file
    rw [mapError_eq_ok_iff]
    cases hmodel : mapper.model job.package entry.1 entry.2 with
    | error e => exact ⟨fun h => (nomatch h), fun ⟨_, h, _⟩ => nomatch hmodel.symm.trans h⟩
    | ok model =>
      have htable : job.file model = ⟨Naming.fileName entry.1 extension, render job.template model⟩ := by
        rw [Job.file, Mapper.table_of_model hmodel]
      constructor
      · intro h
        exact ⟨model, hmodel, (Except.ok.inj h).symm.trans htable⟩
      · rintro ⟨model', hmodel', rfl⟩
        obtain rfl := Except.ok.inj (hmodel.symm.trans hmodel')
        exact congrArg Except.ok htable
  rw [preview_eq, bind_eq_ok_iff]
  simp only [mapM_eq_ok_iff, hfile]

theorem exists_file_of_mem {job : Job} {entries : List (String × Table)} {files : List File}
    (h : List.Forall₂ job.IsFileOf entries files) {entry : String × Table} (hentry : entry ∈ entries) :
    ∃ file ∈ files, job.IsFileOf entry file :=
  Attempt.exists_of_forall₂_left h hentry

theorem paths_of_preview {job : Job} {entries : List (String × Table)} {files : List File}
    (h : List.Forall₂ job.IsFileOf entries files) :
    files.map (·.path) = entries.map fun entry => Naming.fileName entry.1 extension := by
  induction h with
  | nil => rfl
  | cons hfile _ ih =>
    obtain ⟨model, -, rfl⟩ := hfile
    rw [List.map_cons, List.map_cons, ih]

end Go.Job

end OvsdbModels
