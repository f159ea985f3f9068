/-
  OvsdbModels/Proofs/Go/Generation.lean
  =====================================
  **What generation leaves behind.**

  Files are written one after another, so whether a file is left alone is decided when its turn comes.
  As long as no two files share a path, nothing that was written before matters to that decision, and
  the run can be told from the files that were there at the start (`writeFiles_run`).  A second run
  finds every file in place.
-/
import OvsdbModels.Go.Generate
import OvsdbModels.Proofs.Files.Store
import OvsdbModels.Proofs.Go.Paths
import OvsdbModels.Proofs.Text.Form
import OvsdbModels.Schema.Validation

namespace OvsdbModels.Go

open Files (Overwrite Store joinPath)

/-! ### Files put into a store -/

def File.place (dir : String) (file : File) : String := joinPath dir file.path

/-- The store with files put into a directory one after another. -/
def putFiles (store : Store) (dir : String) (files : List File) : Store :=
  files.foldl (fun store file => store.put (file.place dir) file.content) store

theorem putFiles_cons (store : Store) (dir : String) (file : File) (files : List File) :
    putFiles store dir (file :: files) =
      putFiles (store.put (file.place dir) file.content) dir files :=
  rfl

theorem putFiles_other {dir path : String} {files : List File}
    (h : path ∉ files.map (·.place dir)) (store : Store) :
    putFiles store dir files path = store path := by
  induction files generalizing store with
  | nil => rfl
  | cons file files ih =>
    rw [List.map_cons, List.mem_cons, not_or] at h
    rw [putFiles_cons, ih h.2, Store.put_other h.1]

theorem putFiles_of_mem {dir : String} {files : List File} {file : File}
    (hdistinct : (files.map (·.place dir)).Nodup) (hfile : file ∈ files) (store : Store) :
    putFiles store dir files (file.place dir) = some file.content.toUTF8 := by
  induction files generalizing store with
  | nil => exact absurd hfile List.not_mem_nil
  | cons first files ih =>
    rw [List.map_cons, List.nodup_cons] at hdistinct
    rw [putFiles_cons]
    rcases List.mem_cons.mp hfile with rfl | hfile
    · rw [putFiles_other hdistinct.1, Store.put_same]
    · exact ih hdistinct.2 hfile _

theorem putFiles_of_forall {dir : String} {files : List File} {store : Store}
    (h : ∀ file ∈ files, store (file.place dir) = some file.content.toUTF8) :
    putFiles store dir files = store := by
  induction files with
  | nil => rfl
  | cons file files ih =>
    obtain ⟨hfile, hfiles⟩ := List.forall_mem_cons.mp h
    rw [putFiles_cons, Store.put_of_eq hfile, ih hfiles]

/-! ### The run -/

/-- Whether a file is left alone when it is generated into a store. -/
def File.Kept (store : Store) (overwrite : Overwrite) (dir : String) (file : File) : Prop :=
  store.Keeps overwrite (file.place dir) file.content

instance (store : Store) (overwrite : Overwrite) (dir : String) (file : File) :
    Decidable (file.Kept store overwrite dir) :=
  inferInstanceAs (Decidable (store.Keeps ..))

/-- The report on files, each of which is kept or written. -/
def Report.ofFiles (store : Store) (overwrite : Overwrite) (dir : String) (files : List File) :
    Report where
  written := (files.filter fun file => ¬ file.Kept store overwrite dir).map (·.path)
  unchanged := (files.filter fun file => file.Kept store overwrite dir).map (·.path)

def Report.append (first second : Report) : Report where
  written := first.written ++ second.written
  unchanged := first.unchanged ++ second.unchanged

theorem Report.ofFiles_congr {store store' : Store} {overwrite : Overwrite} {dir : String}
    {files : List File}
    (h : ∀ file ∈ files, store (file.place dir) = store' (file.place dir)) :
    ofFiles store overwrite dir files = ofFiles store' overwrite dir files := by
  have hkept : ∀ file ∈ files,
      file.Kept store overwrite dir ↔ file.Kept store' overwrite dir := by
    intro file hfile
    rw [File.Kept, File.Kept, Store.Keeps, Store.Keeps, h file hfile]
  rw [ofFiles, ofFiles, List.filter_congr fun file hfile => decide_eq_decide.mpr (hkept file hfile),
    List.filter_congr fun file hfile => decide_eq_decide.mpr (not_congr (hkept file hfile))]

theorem Report.ofFiles_of_forall {store : Store} {overwrite : Overwrite} {dir : String}
    {files : List File} (h : ∀ file ∈ files, file.Kept store overwrite dir) :
    ofFiles store overwrite dir files = ⟨[], files.map (·.path)⟩ := by
  have hkept : (files.filter fun file => file.Kept store overwrite dir) = files :=
    List.filter_eq_self.mpr fun file hfile => decide_eq_true (h file hfile)
  have hwritten : (files.filter fun file => ¬ file.Kept store overwrite dir) = [] :=
    List.filter_eq_nil_iff.mpr fun file hfile hnot => of_decide_eq_true hnot (h file hfile)
  rw [ofFiles, hkept, hwritten, List.map_nil]

theorem Report.add_append_ofFiles (report : Report) (store : Store) (overwrite : Overwrite)
    (dir : String) (file : File) (files : List File) :
    (report.add file.path (store.result overwrite (file.place dir) file.content)).append
        (ofFiles store overwrite dir files) =
      report.append (ofFiles store overwrite dir (file :: files)) := by
  unfold Store.result ofFiles
  rw [List.filter_cons, List.filter_cons]
  by_cases hkept : store.Keeps overwrite (file.place dir) file.content
  · have hfile : file.Kept store overwrite dir := hkept
    simp only [if_pos hkept, hfile, not_true, decide_false, decide_true, Bool.false_eq_true, if_false,
      if_true, List.map_cons, add, append, List.append_assoc, List.singleton_append]
  · have hfile : ¬ file.Kept store overwrite dir := hkept
    simp only [if_neg hkept, hfile, not_false_eq_true, decide_false, decide_true, Bool.false_eq_true,
      if_false, if_true, List.map_cons, add, append, List.append_assoc, List.singleton_append]

theorem writeFiles_cons_run (store : Store) (overwrite : Overwrite) (dir : String) (report : Report)
    (file : File) (files : List File) :
    (writeFiles Store.volume overwrite dir report (file :: files)).run store =
      (writeFiles Store.volume overwrite dir
        (report.add file.path (store.result overwrite (file.place dir) file.content)) files).run
        (store.put (file.place dir) file.content) := by
  rw [writeFiles, StateT.run_bind, File.place, Store.writeText_run]
  rfl

/-- A run over files with paths of their own succeeds.  It puts all files into the store and reports
on them by the store that it began with. -/
theorem writeFiles_run {dir : String} {files : List File}
    (hdistinct : (files.map (·.place dir)).Nodup) (store : Store) (overwrite : Overwrite)
    (report : Report) :
    (writeFiles Store.volume overwrite dir report files).run store =
      (.ok (report.append (.ofFiles store overwrite dir files)), putFiles store dir files) := by
  induction files generalizing store report with
  | nil =>
    have hempty : report.append (.ofFiles store overwrite dir []) = report := by
      simp only [Report.append, Report.ofFiles, List.filter_nil, List.map_nil, List.append_nil]
    rw [hempty]
    rfl
  | cons file files ih =>
    rw [List.map_cons, List.nodup_cons] at hdistinct
    have hothers : ∀ other ∈ files,
        store.put (file.place dir) file.content (other.place dir) = store (other.place dir) := by
      intro other hother
      refine Store.put_other (fun heq => hdistinct.1 ?_) ..
      rw [← heq]
      exact List.mem_map_of_mem hother
    rw [writeFiles_cons_run, ih hdistinct.2, Report.ofFiles_congr hothers,
      Report.add_append_ofFiles, putFiles_cons]

/-! ### Jobs -/

namespace Job

/-- Whether tables have files of their own: no two names differ in letter case alone, and no name leads
through a directory. -/
structure Apart (entries : List (String × Table)) : Prop where
  distinct : (entries.map fun entry => Text.lowerAll entry.1.toList).Nodup
  plain : ∀ entry ∈ entries, '/' ∉ Text.lowerAll entry.1.toList

theorem nodup_paths_iff {job : Job} {entries : List (String × Table)} {files : List File}
    (h : List.Forall₂ job.IsFileOf entries files) :
    (files.map (·.path)).Nodup ↔
      (entries.map fun entry => Text.lowerAll entry.1.toList).Nodup := by
  rw [paths_of_preview h, List.Nodup, List.Nodup, List.pairwise_map, List.pairwise_map]
  simp only [ne_eq, Naming.fileName_inj]

theorem forall_isFileName_iff {job : Job} {entries : List (String × Table)} {files : List File}
    (h : List.Forall₂ job.IsFileOf entries files) :
    (∀ file ∈ files, Files.IsFileName file.path) ↔
      ∀ entry ∈ entries, '/' ∉ Text.lowerAll entry.1.toList := by
  rw [← List.forall_mem_map (f := File.path), paths_of_preview h, List.forall_mem_map]
  simp only [Naming.isFileName_fileName_iff]

theorem nodup_places {job : Job} {entries : List (String × Table)} {files : List File}
    (h : List.Forall₂ job.IsFileOf entries files) (hapart : Apart entries) (dir : String) :
    (files.map (·.place dir)).Nodup := by
  have hplain := (forall_isFileName_iff h).mpr hapart.plain
  have hplaces : files.map (·.place dir) = (files.map (·.path)).map (joinPath dir) :=
    (List.map_map ..).symm
  rw [hplaces]
  refine ((nodup_paths_iff h).mpr hapart.distinct).map_on ?_
  intro path hpath path' hpath' heq
  obtain ⟨file, hfile, rfl⟩ := List.mem_map.mp hpath
  obtain ⟨file', hfile', rfl⟩ := List.mem_map.mp hpath'
  exact (Files.joinPath_inj (hplain file hfile) (hplain file' hfile')).mp heq

theorem place_eq {file : File} (h : Files.IsFileName file.path) {dir : String} (hdir : dir ≠ "")
    (hslash : Files.endsInSlash dir = false) : file.place dir = dir ++ "/" ++ file.path :=
  Files.joinPath_eq hdir hslash h.2.2.2

theorem files_of_preview {job : Job} {entries : List (String × Table)} {files : List File}
    (htables : job.tables = .ok entries) (hpreview : job.preview = .ok files) :
    List.Forall₂ job.IsFileOf entries files := by
  obtain ⟨_, htables', hfiles⟩ := preview_eq_ok_iff.mp hpreview
  obtain rfl := Except.ok.inj (htables.symm.trans htables')
  exact hfiles

theorem generate_run {job : Job} {files : List File} (hpreview : job.preview = .ok files)
    {dir : String} (hplaces : (files.map (·.place dir)).Nodup) (store : Store)
    (overwrite : Overwrite) :
    (job.generate Store.volume overwrite dir).run store =
      (.ok (.ofFiles store overwrite dir files), putFiles store dir files) := by
  have hreport : ({} : Report).append (.ofFiles store overwrite dir files) =
      .ofFiles store overwrite dir files := by
    simp only [Report.append, List.nil_append]
  unfold generate
  rw [hpreview]
  exact (writeFiles_run hplaces store overwrite {}).trans (by rw [hreport])

theorem places_of_preview {job : Job} {entries : List (String × Table)} {files : List File}
    (h : List.Forall₂ job.IsFileOf entries files) (dir : String) :
    files.map (·.place dir) =
      entries.map fun entry => joinPath dir (Naming.fileName entry.1 extension) := by
  have hplaces : files.map (·.place dir) = (files.map (·.path)).map (joinPath dir) :=
    (List.map_map ..).symm
  rw [hplaces, paths_of_preview h, List.map_map]
  rfl

/-- The paths of a preview are distinct names of files exactly if the job's tables are apart, and then
generation puts the rendering of each table directly below the directory and changes nothing else. -/
theorem generate_apart {job : Job} {entries : List (String × Table)} {files : List File}
    (htables : job.tables = .ok entries) (hpreview : job.preview = .ok files) :
    ((files.map (·.path)).Nodup ∧ (∀ file ∈ files, Files.IsFileName file.path) ↔ Apart entries) ∧
    (Apart entries → ∀ (store : Store) (overwrite : Overwrite) (dir : String), ∃ report after,
      (job.generate Store.volume overwrite dir).run store = (.ok report, after) ∧
      (∀ entry ∈ entries, ∃ model,
        mapper.model job.package entry.1 entry.2 = .ok model ∧
        after (joinPath dir (Naming.fileName entry.1 extension)) =
          some (render job.template model).toUTF8) ∧
      ∀ path, (∀ entry ∈ entries, path ≠ joinPath dir (Naming.fileName entry.1 extension)) →
        after path = store path) := by
  have hfiles := files_of_preview htables hpreview
  constructor
  · rw [nodup_paths_iff hfiles, forall_isFileName_iff hfiles]
    exact ⟨fun h => ⟨h.1, h.2⟩, fun h => ⟨h.distinct, h.plain⟩⟩
  · intro hapart store overwrite dir
    have hplaces := nodup_places hfiles hapart dir
    refine ⟨_, _, generate_run hpreview hplaces store overwrite, ?_, ?_⟩
    · intro entry hentry
      obtain ⟨file, hfile, model, hmodel, rfl⟩ := exists_file_of_mem hfiles hentry
      exact ⟨model, hmodel, putFiles_of_mem hplaces hfile store⟩
    · intro path hpath
      apply putFiles_other
      rw [places_of_preview hfiles, List.mem_map]
      rintro ⟨entry, hentry, heq⟩
      exact hpath entry hentry heq.symm

/-- A job for a database with two tables. -/
def pair (first second : String) : Job where
  database := {
    name := "pair"
    version := "1.0.0"
    tables := .ofList [(first, .ofColumns [("name", .plain .string)]), (second, {})] }
  package := "ovsmodel"

theorem generate_apart_pair : ∃ entries files report after,
    (pair "Port" "QoS").tables = .ok entries ∧ (pair "Port" "QoS").preview = .ok files ∧
      (files.map (·.path)).Nodup ∧ (∀ file ∈ files, Files.IsFileName file.path) ∧
      ((pair "Port" "QoS").generate Store.volume .always "model").run (fun _ => none) =
        (.ok report, after) ∧
      ∀ path, (∀ entry ∈ entries, path ≠ joinPath "model" (Naming.fileName entry.1 extension)) →
        after path = none := by
  have htables : (pair "Port" "QoS").tables = .ok (pair "Port" "QoS").database.tables.entries :=
    tables_all (pair "Port" "QoS")
  have hpreview : (pair "Port" "QoS").preview = .ok _ := rfl
  have hapart : Apart (pair "Port" "QoS").database.tables.entries := ⟨by decide, by decide⟩
  obtain ⟨hpaths, hgenerate⟩ := generate_apart htables hpreview
  obtain ⟨hnodup, hplain⟩ := hpaths.mpr hapart
  obtain ⟨report, after, hrun, -, hother⟩ := hgenerate hapart (fun _ => none) .always "model"
  exact ⟨_, _, report, after, htables, hpreview, hnodup, hplain, hrun, hother⟩

/-- A job for a database whose two tables have one path, which leads out of the output directory. -/
def sharing : Job where
  database := {
    name := "s"
    version := "1.0.0"
    tables := .ofList [("../P", {}), ("../p", {})] }
  package := "ovsmodel"

/-- The database is accepted, and both tables are reported as written to one file outside the output
directory, where only the second is left. -/
theorem generate_sharing : ∃ source first second after,
    Database.parse source = .ok sharing.database ∧
    sharing.preview = .ok [first, second] ∧
    ¬ ([first, second].map (·.path)).Nodup ∧
    (∀ file ∈ [first, second], ¬ Files.IsFileName file.path) ∧
    first.content ≠ second.content ∧
    (sharing.generate Store.volume .always "model").run (fun _ => none) =
      (.ok ⟨["../p.go", "../p.go"], []⟩, after) ∧
    after "model/../p.go" = some second.content.toUTF8 := by
  have hread : (Database.parse ("\x7b\"name\":\"s\",\"version\":\"1.0.0\",\"tables\":" ++
      "\x7b\"../P\":\x7b\"columns\":\x7b\x7d\x7d,\"../p\":\x7b\"columns\":\x7b\x7d\x7d\x7d\x7d")).toOption =
      some sharing.database := by decide +kernel
  have hparse := Attempt.toOption_eq_some_iff.mp hread
  have hpath : ¬ Files.IsFileName "../p.go" := by
    rintro ⟨-, -, -, hslash⟩
    exact hslash (by decide)
  refine ⟨_, _, _, _, hparse, rfl, ?_, ?_, ?_, rfl, rfl⟩
  · decide
  · exact List.forall_mem_cons.mpr ⟨hpath, List.forall_mem_singleton.mpr hpath⟩
  · decide

/-! ### Identifiers -/

theorem lowerAll_of_isIdentifier {name : String} (h : Text.IsIdentifier name) :
    Text.lowerAll name.toList = name.toList.map Char.toLower :=
  Text.lowerAll_of_ascii fun c hc => Text.ascii_of_isWordChar (h.isWordChar c hc)

theorem slash_not_mem_lowerAll {name : String} (h : Text.IsIdentifier name) :
    '/' ∉ Text.lowerAll name.toList := by
  have hlower : ∀ c : Char, c.toNat < 128 → Text.isWordChar c = true → c.toLower ≠ '/' :=
    fun c => Text.forall_ascii (p := fun c => Text.isWordChar c = true → c.toLower ≠ '/') (by decide)
  rw [lowerAll_of_isIdentifier h, List.mem_map]
  rintro ⟨c, hc, heq⟩
  have hword := h.isWordChar c hc
  exact hlower c (Text.ascii_of_isWordChar hword) hword heq

theorem apart_of_isIdentifier {job : Job} {entries : List (String × Table)}
    (htables : job.tables = .ok entries)
    (hnames : ∀ name ∈ job.database.tables.names, Text.IsIdentifier name)
    (hcase : (job.database.tables.names.map fun name => Text.lowerAll name.toList).Nodup) :
    Apart entries where
  distinct := by
    have hsublist := tables_sublist htables
    rw [NameMap.names, List.map_map] at hcase
    exact hcase.sublist (hsublist.map _)
  plain := fun entry hentry => slash_not_mem_lowerAll
    (hnames entry.1 (List.mem_map_of_mem ((tables_sublist htables).subset hentry)))

/-- Generation for tables whose names are identifiers that differ in more than letter case: every file
has its content, directly below the directory, and no other is changed, the report tells the kept files
from the written ones by the files that were there before, and a second run keeps them all. -/
theorem generate_twice {job : Job} {files : List File}
    (hnames : ∀ name ∈ job.database.tables.names, Text.IsIdentifier name)
    (hcase : (job.database.tables.names.map fun name => Text.lowerAll name.toList).Nodup)
    (hpreview : job.preview = .ok files) (store : Store) (overwrite : Overwrite) (dir : String) :
    (files.map (·.path)).Nodup ∧
    (dir ≠ "" → Files.endsInSlash dir = false → ∀ file ∈ files,
      joinPath dir file.path = dir ++ "/" ++ file.path) ∧
    ∃ report after,
      (job.generate Store.volume overwrite dir).run store = (.ok report, after) ∧
      (∀ file ∈ files, after (joinPath dir file.path) = some file.content.toUTF8) ∧
      (∀ path, (∀ file ∈ files, path ≠ joinPath dir file.path) → after path = store path) ∧
      report.unchanged = (files.filter fun file =>
        store.Keeps overwrite (joinPath dir file.path) file.content).map (·.path) ∧
      report.written = (files.filter fun file =>
        ¬ store.Keeps overwrite (joinPath dir file.path) file.content).map (·.path) ∧
      (job.generate Store.volume .ifChanged dir).run after =
        (.ok ⟨[], files.map (·.path)⟩, after) := by
  obtain ⟨entries, htables, hfiles⟩ := preview_eq_ok_iff.mp hpreview
  have hapart := apart_of_isIdentifier htables hnames hcase
  have hplain := (forall_isFileName_iff hfiles).mpr hapart.plain
  have hplaces := nodup_places hfiles hapart dir
  have hcontent : ∀ file ∈ files,
      putFiles store dir files (file.place dir) = some file.content.toUTF8 :=
    fun file hfile => putFiles_of_mem hplaces hfile store
  refine ⟨(nodup_paths_iff hfiles).mpr hapart.distinct,
    fun hdir hslash file hfile => place_eq (hplain file hfile) hdir hslash,
    _, _, generate_run hpreview hplaces store overwrite, hcontent, ?_, rfl, rfl, ?_⟩
  · intro path hpath
    apply putFiles_other
    intro hmem
    obtain ⟨file, hfile, rfl⟩ := List.mem_map.mp hmem
    exact hpath file hfile rfl
  · rw [generate_run hpreview hplaces, putFiles_of_forall hcontent,
      Report.ofFiles_of_forall fun file hfile => ⟨rfl, hcontent file hfile⟩]

theorem generate_twice_pair : ∃ files report after,
    (∀ name ∈ (pair "Port" "QoS").database.tables.names, Text.IsIdentifier name) ∧
    ((pair "Port" "QoS").database.tables.names.map fun name => Text.lowerAll name.toList).Nodup ∧
    (pair "Port" "QoS").preview = .ok files ∧
    ((pair "Port" "QoS").generate Store.volume .always "model").run (fun _ => none) =
      (.ok report, after) ∧
    (∀ file ∈ files, after ("model/" ++ file.path) = some file.content.toUTF8) ∧
    ((pair "Port" "QoS").generate Store.volume .ifChanged "model").run after =
      (.ok ⟨[], files.map (·.path)⟩, after) := by
  have hnames : ∀ name ∈ (pair "Port" "QoS").database.tables.names, Text.IsIdentifier name := by
    decide
  have hcase : ((pair "Port" "QoS").database.tables.names.map
      fun name => Text.lowerAll name.toList).Nodup := by decide
  have hpreview : (pair "Port" "QoS").preview = .ok _ := rfl
  obtain ⟨-, hplaces, report, after, hrun, hcontent, -, -, -, hsecond⟩ :=
    generate_twice hnames hcase hpreview (fun _ => none) .always "model"
  refine ⟨_, report, after, hnames, hcase, hpreview, hrun, fun file hfile => ?_, hsecond⟩
  exact hplaces (by decide) (by decide) file hfile ▸ hcontent file hfile

end Job

end OvsdbModels.Go
