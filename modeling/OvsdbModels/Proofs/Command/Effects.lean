/-
  OvsdbModels/Proofs/Command/Effects.lean
  =======================================
  **What a command does to the files.**

  A command looks at files before it writes any, and looking leaves the disk as it is.  Generation has
  all its files in hand before the first one is written, so whatever is wrong with the configuration,
  the schema, the selection or a table (`Obstacle`) shows while the disk is still untouched.  After that
  only a file that cannot be written ends the run, with the files before it in place (`Writes`).
-/
import OvsdbModels.Command.Run
import OvsdbModels.Files.Disk
import OvsdbModels.Proofs.Go.Paths

namespace OvsdbModels

open Attempt
open Files (Disk joinPath)

/-! ### Looking at files -/

/-- A program goes on with what its first part gave, where that part left off. -/
theorem Files.run_bind_of_eq {σ α β : Type} {x : StateM σ α} {s s' : σ} {a : α}
    (h : x.run s = (a, s')) (f : α → StateM σ β) : (x >>= f).run s = (f a).run s' := by
  rw [StateT.run_bind, h]
  rfl

/-- The text of a file; nothing if it cannot be read or is not in UTF-8. -/
def Files.Disk.text? (disk : Disk) (path : String) : Option String :=
  (disk.read path).bind String.fromUTF8?

theorem Files.Disk.readText_run (disk : Disk) (path : String) :
    (volume.readText path).run disk = (disk.text? path, disk) :=
  rfl

/-- Whether a disk has a schema at a path, and the schema is valid. -/
def Database.IsOn (disk : Disk) (path : String) (db : Database) : Prop :=
  ∃ source, disk.text? path = some source ∧ parse source = .ok db

theorem Database.IsOn.unique {disk : Disk} {path : String} {db db' : Database}
    (h : IsOn disk path db) (h' : IsOn disk path db') : db = db' := by
  obtain ⟨source, htext, hparse⟩ := h
  obtain ⟨source', htext', hparse'⟩ := h'
  simp_all

/-- Reading a schema leaves the disk as it is. -/
theorem Database.ofFile_run (disk : Disk) (path : String) :
    (ofFile Disk.volume path).run disk =
      (match disk.text? path with
        | none => .error (.unreadable path)
        | some source => parse source, disk) := by
  unfold ofFile
  rw [Files.run_bind_of_eq (Disk.readText_run disk path)]
  cases disk.text? path with
  | none => rfl
  | some source => rfl

namespace Config

/-- The file that a configuration is read from: the given one, or else the one in the working directory
if it is there. -/
def path? (disk : Disk) : Option String → Option String
  | some path => some path
  | none => if (disk.read defaultPath).isSome then some defaultPath else none

/-- The configuration that a disk has for a command. -/
inductive IsOn (disk : Disk) (given : Option String) : Config → Prop where
  | absent (hpath : path? disk given = none) : IsOn disk given {}
  | present {path content : String} {config : Config} (hpath : path? disk given = some path)
      (htext : disk.text? path = some content) (hparse : parse? content = some config) :
      IsOn disk given config

/-- What is wrong with the file that a configuration is read from. -/
inductive Unusable (disk : Disk) (given : Option String) : Prop where
  | unreadable {path : String} (hpath : path? disk given = some path)
      (htext : disk.text? path = none)
  | invalid {path content : String} (hpath : path? disk given = some path)
      (htext : disk.text? path = some content) (hparse : parse? content = none)

theorem IsOn.unique {disk : Disk} {given : Option String} {config config' : Config}
    (h : IsOn disk given config) (h' : IsOn disk given config') : config = config' := by
  cases h with
  | absent hpath =>
    cases h' with
    | absent => rfl
    | present hpath' => simp [hpath] at hpath'
  | present hpath htext hparse =>
    cases h' with
    | absent hpath' => simp [hpath] at hpath'
    | present hpath' htext' hparse' => simp_all

theorem IsOn.not_unusable {disk : Disk} {given : Option String} {config : Config}
    (h : IsOn disk given config) : ¬ Unusable disk given := by
  intro hunusable
  cases h with
  | absent hpath => cases hunusable <;> simp_all
  | present hpath htext hparse => cases hunusable <;> simp_all

theorem load_eq (disk : Disk) (given : Option String) :
    (load Disk.volume given).run disk =
      match path? disk given with
      | none => (.ok {}, disk)
      | some path => (readFile Disk.volume path).run disk := by
  cases given with
  | some path => rfl
  | none =>
    have hfile : (Disk.volume.isFile defaultPath).run disk =
      ((disk.read defaultPath).isSome, disk) := rfl
    unfold load path?
    rw [Files.run_bind_of_eq hfile]
    cases (disk.read defaultPath).isSome with
    | true => rfl
    | false => rfl

theorem readFile_run (disk : Disk) (path : String) :
    (readFile Disk.volume path).run disk =
      (match disk.text? path with
        | none => .error (.unreadable path)
        | some content =>
          match parse? content with
          | none => .error (.unparsable path)
          | some config => .ok config, disk) := by
  unfold readFile
  rw [Files.run_bind_of_eq (Disk.readText_run disk path)]
  cases disk.text? path with
  | none => rfl
  | some content =>
    dsimp only
    cases parse? content with
    | none => rfl
    | some config => rfl

/-- Loading leaves the disk as it is, and fails exactly on a file that is of no use. -/
theorem load_cases (disk : Disk) (given : Option String) :
    (∃ error, (load Disk.volume given).run disk = (.error error, disk) ∧ Unusable disk given) ∨
      ∃ config, (load Disk.volume given).run disk = (.ok config, disk) ∧
        IsOn disk given config := by
  rw [load_eq]
  cases hpath : path? disk given with
  | none => exact .inr ⟨{}, rfl, .absent hpath⟩
  | some path =>
    simp only [readFile_run]
    cases htext : disk.text? path with
    | none => exact .inl ⟨_, rfl, .unreadable hpath htext⟩
    | some content =>
      dsimp only
      cases hparse : parse? content with
      | none => exact .inl ⟨_, rfl, .invalid hpath htext hparse⟩
      | some config => exact .inr ⟨config, rfl, .present hpath htext hparse⟩

end Config

/-! ### Templates and jobs -/

namespace Go

theorem Block.ofName?_eq_none_iff {name : String} :
    ofName? name = none ↔ ∀ block : Block, block.name ≠ name := by
  have hall : ∀ block : Block, block ∈ all := by
    intro block
    cases block <;> decide
  rw [ofName?, List.find?_eq_none]
  simp only [decide_eq_true_eq]
  exact ⟨fun h block => h block (hall block), fun h block _ => h block⟩

/-- Snippets make a template unless one of them is named for no block. -/
theorem Template.addNamed_eq_error_iff {template : Template} {snippets : List (String × String)} :
    (∃ error, template.addNamed snippets = .error error) ↔
      ∃ name ∈ snippets.map (·.1), ∀ block : Block, block.name ≠ name := by
  induction snippets generalizing template with
  | nil => simp [addNamed]
  | cons snippet snippets ih =>
    obtain ⟨name, text⟩ := snippet
    rw [addNamed, List.map_cons, List.exists_mem_cons_iff]
    cases hname : Block.ofName? name with
    | none => simp [← Block.ofName?_eq_none_iff, hname]
    | some block => simp only [ih, ← Block.ofName?_eq_none_iff, hname, reduceCtorEq, false_or]

theorem Job.mem_tables_iff {job : Job} {entries : List (String × Table)}
    (h : job.tables = .ok entries) {entry : String × Table} :
    entry ∈ entries ↔
      entry ∈ job.database.tables.entries ∧ ∀ names ∈ job.selection, entry.1 ∈ names := by
  unfold tables at h
  split at h
  · rename_i hselection
    obtain rfl := Except.ok.inj h
    simp [hselection]
  · rename_i names hselection
    split at h
    · cases h
    · obtain rfl := Except.ok.inj h
      simp [NameMap.select_eq_filter, hselection]

theorem Job.known_of_tables {job : Job} {entries : List (String × Table)}
    (h : job.tables = .ok entries) {names : List String} (hnames : job.selection = some names) :
    ∀ name ∈ names, name ∈ job.database.tables.names := by
  unfold tables at h
  simp only [hnames] at h
  split at h
  · cases h
  · rename_i hfind
    intro name hname
    rw [← NameMap.contains_iff]
    simpa using List.find?_eq_none.mp hfind name hname

theorem Job.exists_of_tables_eq_error {job : Job} {error : JobError}
    (h : job.tables = .error error) :
    ∃ names ∈ job.selection, ∃ name ∈ names, name ∉ job.database.tables.names := by
  unfold tables at h
  split at h
  · cases h
  · rename_i names hselection
    split at h
    · rename_i name hfind
      refine ⟨names, hselection, name, List.mem_of_find?_eq_some hfind, ?_⟩
      have hmissing := List.find?_some hfind
      rw [← NameMap.contains_iff]
      simpa using hmissing
    · cases h

end Go

/-! ### Generation -/

namespace Command

/-- What is wrong with a generation before it writes its first file. -/
inductive Obstacle (disk : Disk) (options : Generate) : Prop where
  | configuration (h : Config.Unusable disk options.config)
  | unknownBlock {config : Config} {name : String}
      (hconfig : Config.IsOn disk options.config config) (hname : name ∈ config.templates.names)
      (hblock : ∀ block : Go.Block, block.name ≠ name)
  | unreadableSchema (htext : disk.text? options.schema = none)
  | invalidSchema {source : String} {error : SchemaError}
      (htext : disk.text? options.schema = some source) (hparse : Database.parse source = .error error)
  | unknownTable {db : Database} {table : String} (hdb : Database.IsOn disk options.schema db)
      (htable : table ∈ options.tables) (hmissing : table ∉ db.tables.names)
  | unmapped {db : Database} {entry : String × Table} {package : String} {error : MappingError}
      (hdb : Database.IsOn disk options.schema db) (hentry : entry ∈ db.tables.entries)
      (hselected : options.tables = [] ∨ entry.1 ∈ options.tables)
      (hmodel : Go.mapper.model package entry.1 entry.2 = .error error)

/-- The job that a generation has with the configuration and the schema of a disk, and the directory
that its files go to. -/
inductive Planned (disk : Disk) (options : Generate) : Go.Job → String → Prop where
  | plan {config : Config} {db : Database} {template : Go.Template}
      (hconfig : Config.IsOn disk options.config config) (hdb : Database.IsOn disk options.schema db)
      (htemplate : config.template = .ok template) :
      Planned disk options (jobOf options config template db)
        (config.outputDirectory options.output)

/-- Without tables among its options a generation is for all tables. -/
theorem selected_jobOf_iff {options : Generate} {config : Config} {template : Go.Template}
    {db : Database} {table : String} :
    (∀ names ∈ (jobOf options config template db).selection, table ∈ names) ↔
      options.tables = [] ∨ table ∈ options.tables := by
  by_cases hempty : options.tables = []
  · simp [jobOf, hempty]
  · simp [jobOf, hempty]

/-- Files are written into a directory one after another, up to the first that cannot be written; `ok`
tells whether all could. -/
inductive Writes (dir : String) : Disk → List Go.File → Bool → Disk → Prop where
  | done (disk : Disk) : Writes dir disk [] true disk
  | failed {disk after : Disk} {file : Go.File} {rest : List Go.File}
      (h : disk.write (joinPath dir file.path) file.content.toUTF8 = (after, false)) :
      Writes dir disk (file :: rest) false after
  | next {disk middle after : Disk} {file : Go.File} {rest : List Go.File} {ok : Bool}
      (h : disk.write (joinPath dir file.path) file.content.toUTF8 = (middle, true))
      (hrest : Writes dir middle rest ok after) : Writes dir disk (file :: rest) ok after

theorem writeText_run {disk after : Disk} {path content : String} {ok : Bool}
    (h : disk.write path content.toUTF8 = (after, ok)) :
    (Disk.volume.writeText .always path content).run disk =
      (if ok then some .written else none, after) := by
  have hrun : (Disk.volume.write path content.toUTF8).run disk = (ok, after) := by
    simp only [Disk.volume, StateT.run_modifyGet, h]
    rfl
  have hcurrent : (Disk.volume.isCurrent .always path content).run disk = (false, disk) := rfl
  unfold Files.Volume.writeText
  rw [Files.run_bind_of_eq hcurrent, if_neg Bool.false_ne_true, Files.run_bind_of_eq hrun]
  cases ok with
  | true => rfl
  | false => rfl

theorem writeFiles_run (dir : String) (files : List Go.File) (disk : Disk) (report : Go.Report) :
    ∃ result after, (Go.writeFiles Disk.volume .always dir report files).run disk =
      (result, after) ∧ Writes dir disk files result.isOk after := by
  induction files generalizing disk report with
  | nil => exact ⟨_, _, rfl, .done disk⟩
  | cons file files ih =>
    cases hwrite : disk.write (joinPath dir file.path) file.content.toUTF8 with
    | mk middle ok =>
      rw [Go.writeFiles, Files.run_bind_of_eq (writeText_run hwrite)]
      cases ok with
      | false => exact ⟨_, _, rfl, .failed hwrite⟩
      | true =>
        obtain ⟨result, after, hrun, hwrites⟩ := ih middle (report.add file.path .written)
        exact ⟨result, after, hrun, .next hwrite hwrites⟩

/-- Whatever is wrong with the tables of a planned job is an obstacle. -/
theorem obstacle_of_preview_eq_error {disk : Disk} {options : Generate} {job : Go.Job} {dir : String}
    {error : Go.JobError} (hplan : Planned disk options job dir) (h : job.preview = .error error) :
    Obstacle disk options := by
  cases hplan with
  | @plan config db template hconfig hdb htemplate =>
    rw [Go.Job.preview_eq] at h
    cases htables : (jobOf options config template db).tables with
    | error e =>
      obtain ⟨names, hnames, name, hname, hmissing⟩ := Go.Job.exists_of_tables_eq_error htables
      have hgiven : name ∈ options.tables := by
        simp only [jobOf] at hnames
        split at hnames
        · exact nomatch hnames
        · obtain rfl := Option.some.inj hnames
          exact hname
      exact .unknownTable hdb hgiven hmissing
    | ok entries =>
      rw [htables] at h
      obtain ⟨entry, hentry, hfile⟩ := exists_of_mapM_eq_error h
      obtain ⟨hmem, hselected⟩ := (Go.Job.mem_tables_iff htables).mp hentry
      cases hmodel : Go.mapper.model (jobOf options config template db).package entry.1 entry.2 with
      | ok model =>
        rw [hmodel] at hfile
        exact nomatch hfile
      | error e =>
        exact .unmapped hdb hmem (selected_jobOf_iff.mp hselected) hmodel

/-- With an obstacle in the way there is no preview. -/
theorem not_obstacle_of_preview {disk : Disk} {options : Generate} {job : Go.Job} {dir : String}
    {files : List Go.File} (hplan : Planned disk options job dir) (h : job.preview = .ok files) :
    ¬ Obstacle disk options := by
  intro hobstacle
  cases hplan with
  | @plan config db template hconfig hdb htemplate =>
    obtain ⟨entries, htables, hfiles⟩ := Go.Job.preview_eq_ok_iff.mp h
    have hschema := hdb
    obtain ⟨source, htext, hparse⟩ := hdb
    cases hobstacle with
    | configuration hunusable => exact hconfig.not_unusable hunusable
    | unknownBlock hconfig' hname hblock =>
      obtain rfl := hconfig.unique hconfig'
      obtain ⟨error, herror⟩ := Go.Template.addNamed_eq_error_iff.mpr ⟨_, hname, hblock⟩
      rw [Config.template, Go.Template.ofNamed, herror] at htemplate
      exact nomatch htemplate
    | unreadableSchema htext' => simp [htext] at htext'
    | invalidSchema htext' hparse' => simp_all
    | unknownTable hdb' htable hmissing =>
      obtain rfl := hschema.unique hdb'
      have hselection : (jobOf options config template db).selection = some options.tables := by
        rw [jobOf, if_neg]
        intro hempty
        simp [List.isEmpty_iff.mp hempty] at htable
      exact hmissing (Go.Job.known_of_tables htables hselection _ htable)
    | @unmapped _ entry package error hdb' hentry hselected hmodel =>
      obtain rfl := hschema.unique hdb'
      have hmem : entry ∈ entries :=
        (Go.Job.mem_tables_iff htables).mpr ⟨hentry, selected_jobOf_iff.mpr hselected⟩
      obtain ⟨file, -, model, hmodel', -⟩ := Go.Job.exists_file_of_mem hfiles hmem
      rw [Go.mapper.model_inPackage package, hmodel] at hmodel'
      exact nomatch hmodel'

theorem runJob_dry_run (disk : Disk) {options : Generate} (hdry : options.dryRun = true)
    (config : Config) (job : Go.Job) :
    ((runJob Disk.volume options config job).run disk).2 = disk := by
  unfold runJob
  rw [if_pos hdry]
  cases job.preview with
  | error error => rfl
  | ok files => rfl

/-- A job that has a preview writes its files. -/
theorem runJob_wet_run (disk : Disk) {options : Generate} (hwet : options.dryRun = false)
    (config : Config) {job : Go.Job} {files : List Go.File} (h : job.preview = .ok files) :
    ∃ outcome after ok, (runJob Disk.volume options config job).run disk = (outcome, after) ∧
      Writes (config.outputDirectory options.output) disk files ok after ∧
      outcome.exitCode = if ok then 0 else 1 := by
  obtain ⟨result, after, hrun, hwrites⟩ :=
    writeFiles_run (config.outputDirectory options.output) files disk {}
  have hgenerate : (job.generate Disk.volume .always (config.outputDirectory options.output)).run
      disk = (result, after) := by
    unfold Go.Job.generate
    rw [h]
    exact hrun
  unfold runJob
  rw [if_neg (by simp [hwet]), Files.run_bind_of_eq hgenerate]
  cases result with
  | error error => exact ⟨_, _, _, rfl, hwrites, rfl⟩
  | ok report => exact ⟨_, _, _, rfl, hwrites, rfl⟩

/-- A generation meets an obstacle and ends, or comes to its job; the disk is as it was in both
cases. -/
theorem runGenerate_stages (disk : Disk) (options : Generate) :
    (Obstacle disk options ∧ ∃ outcome, outcome.exitCode = 1 ∧
        (runGenerate Disk.volume options).run disk = (outcome, disk)) ∨
      ∃ config job, Planned disk options job (config.outputDirectory options.output) ∧
        (runGenerate Disk.volume options).run disk =
          (runJob Disk.volume options config job).run disk := by
  unfold runGenerate
  obtain ⟨error, hload, hunusable⟩ | ⟨config, hload, hconfig⟩ := Config.load_cases disk options.config
  · rw [Files.run_bind_of_eq hload]
    exact .inl ⟨.configuration hunusable, _, rfl, rfl⟩
  rw [Files.run_bind_of_eq hload]
  dsimp only
  rw [Files.run_bind_of_eq (Database.ofFile_run disk options.schema)]
  cases htext : disk.text? options.schema with
  | none => exact .inl ⟨.unreadableSchema htext, _, rfl, rfl⟩
  | some source =>
    dsimp only
    cases hparse : Database.parse source with
    | error error => exact .inl ⟨.invalidSchema htext hparse, _, rfl, rfl⟩
    | ok db =>
      dsimp only
      cases htemplate : config.template with
      | error error =>
        obtain ⟨name, hname, hblock⟩ :=
          Go.Template.addNamed_eq_error_iff.mp (exists_of_mapError_eq_error htemplate)
        exact .inl ⟨.unknownBlock hconfig hname hblock, _, rfl, rfl⟩
      | ok template =>
        exact .inr ⟨config, _, .plan hconfig ⟨source, htext, hparse⟩ htemplate, rfl⟩

/-- A generation that only shows its files leaves the disk as it is. -/
theorem runGenerate_dry (disk : Disk) {options : Generate} (hdry : options.dryRun = true) :
    ((runGenerate Disk.volume options).run disk).2 = disk := by
  obtain ⟨-, outcome, -, hrun⟩ | ⟨config, job, -, hrun⟩ := runGenerate_stages disk options
  · rw [hrun]
  · rw [hrun, runJob_dry_run disk hdry]

/-- A generation that writes meets an obstacle and leaves the disk as it is, or it writes the files of
its job. -/
theorem runGenerate_wet (disk : Disk) {options : Generate} (hwet : options.dryRun = false) :
    ∃ outcome after, (runGenerate Disk.volume options).run disk = (outcome, after) ∧
      (Obstacle disk options ∧ outcome.exitCode = 1 ∧ after = disk ∨
        ¬ Obstacle disk options ∧ ∃ job dir files ok, Planned disk options job dir ∧
          job.preview = .ok files ∧ Writes dir disk files ok after ∧
          outcome.exitCode = if ok then 0 else 1) := by
  obtain ⟨hobstacle, outcome, hcode, hrun⟩ | ⟨config, job, hplan, hrun⟩ :=
    runGenerate_stages disk options
  · exact ⟨outcome, disk, hrun, .inl ⟨hobstacle, hcode, rfl⟩⟩
  cases hpreview : job.preview with
  | error error =>
    have hfail : (runJob Disk.volume options config job).run disk = (.failed error.message, disk) := by
      unfold runJob Go.Job.generate
      rw [if_neg (by simp [hwet]), hpreview]
      rfl
    exact ⟨_, _, hrun.trans hfail,
      .inl ⟨obstacle_of_preview_eq_error hplan hpreview, rfl, rfl⟩⟩
  | ok files =>
    obtain ⟨outcome, after, ok, hjob, hwrites, hcode⟩ := runJob_wet_run disk hwet config hpreview
    exact ⟨outcome, after, hrun.trans hjob, .inr ⟨not_obstacle_of_preview hplan hpreview, job, _,
      files, ok, hplan, hpreview, hwrites, hcode⟩⟩

/-! ### All commands -/

theorem runCheck_run (disk : Disk) (schema : String) :
    ((runCheck Disk.volume schema).run disk).2 = disk := by
  unfold runCheck
  rw [Files.run_bind_of_eq (Database.ofFile_run disk schema)]
  split
  · rfl
  · rename_i db _
    cases Go.mapper.models "check" db with
    | error error => rfl
    | ok models => rfl

theorem runList_run (disk : Disk) (schema : String) :
    ((runList Disk.volume schema).run disk).2 = disk := by
  unfold runList
  rw [Files.run_bind_of_eq (Database.ofFile_run disk schema)]
  split
  · rfl
  · rfl

/-- Only a generation that is no dry run can change a disk, and only by writing files.  If it meets an
obstacle, it fails and every file is as it was; otherwise it writes the files of its job in order,
and fails only at a file that cannot be written. -/
theorem run_effects (disk : Disk) (arguments : List String) :
    ∃ outcome after, (run Disk.volume arguments).run disk = (outcome, after) ∧
      ((∀ options, Request.ofArguments arguments = .run (.generate options) →
          options.dryRun = true) → after = disk) ∧
      ∀ options, Request.ofArguments arguments = .run (.generate options) →
        options.dryRun = false →
        (Obstacle disk options → outcome.exitCode = 1 ∧ after = disk) ∧
        (¬ Obstacle disk options → ∃ job dir files ok, Planned disk options job dir ∧
          job.preview = .ok files ∧ Writes dir disk files ok after ∧
          outcome.exitCode = if ok then 0 else 1) := by
  refine ⟨((run Disk.volume arguments).run disk).1, ((run Disk.volume arguments).run disk).2, rfl,
    ?_, ?_⟩
  · intro hdry
    unfold run
    split
    · rfl
    · rfl
    · rfl
    · rename_i options hrequest
      exact runGenerate_dry disk (hdry options hrequest)
    · exact runCheck_run disk _
    · exact runList_run disk _
  · intro options hrequest hwet
    have hrun : run Disk.volume arguments = runGenerate Disk.volume options := by
      rw [run, hrequest]
    obtain ⟨outcome, after, heq, hcases⟩ := runGenerate_wet disk hwet
    rw [hrun, heq]
    obtain ⟨hobstacle, hcode, hafter⟩ | ⟨hfree, hwrites⟩ := hcases
    · exact ⟨fun _ => ⟨hcode, hafter⟩, fun hfree => absurd hobstacle hfree⟩
    · exact ⟨fun hobstacle => absurd hobstacle hfree, fun _ => hwrites⟩

/-- A database whose second table has a column of an unknown type. -/
def untyped : Database where
  name := "s"
  version := "1.0.0"
  tables := .ofList [("A", {}), ("B", .ofColumns [("c", .plain (.unsupported "text"))])]

/-- A disk with that database's schema and a file of an earlier run. -/
def stale : Disk where
  entries := [
    (["s.ovsschema"], .file ("\x7b\"name\":\"s\",\"version\":\"1.0.0\",\"tables\":" ++
      "\x7b\"A\":\x7b\"columns\":\x7b\x7d\x7d,\"B\":\x7b\"columns\":\x7b\"c\":" ++
      "\x7b\"type\":\"text\"\x7d\x7d\x7d\x7d\x7d").toUTF8),
    (["a.go"], .file "package old\n".toUTF8)]
  workingDirectory := []

/-- The first table has a model, but its file is not written either. -/
theorem run_effects_stale : ∃ outcome,
    (run Disk.volume ["generate", "s.ovsschema", "--output", "."]).run stale = (outcome, stale) ∧
      outcome.exitCode = 1 := by
  have hrequest : Request.ofArguments ["generate", "s.ovsschema", "--output", "."] =
    .run (.generate { schema := "s.ovsschema", output := some "." }) := by decide
  have hread : ((stale.text? "s.ovsschema").bind fun source => (Database.parse source).toOption) =
    some untyped := by decide +kernel
  obtain ⟨source, htext, hparse⟩ := Option.bind_eq_some_iff.mp hread
  have hdb : Database.IsOn stale "s.ovsschema" untyped :=
    ⟨source, htext, Attempt.toOption_eq_some_iff.mp hparse⟩
  have hmodel : Go.mapper.model "p" "B" (.ofColumns [("c", .plain (.unsupported "text"))]) =
    .error (.unsupportedType "B" "c" "text") := rfl
  have hobstacle : Obstacle stale { schema := "s.ovsschema", output := some "." } :=
    .unmapped hdb (List.mem_cons_of_mem _ List.mem_cons_self) (.inl rfl) hmodel
  obtain ⟨outcome, after, hrun, -, hgenerate⟩ :=
    run_effects stale ["generate", "s.ovsschema", "--output", "."]
  obtain ⟨hcode, rfl⟩ := (hgenerate _ hrequest rfl).1 hobstacle
  exact ⟨outcome, hrun, hcode⟩

end Command

end OvsdbModels
