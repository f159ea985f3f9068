/-
  OvsdbModels/Proofs/Go/Selection.lean
  ====================================
  **Models of all tables and of selected tables.**

  The models of a job and the models of a mapper come from two walks over the tables of a database.
  They differ in the package alone (`models_all`).  A selection is sorted and loses its repeated names,
  so what counts is which names it has (`models_only`).  Unknown names are told before any table is
  looked at (`models_only_unknown`).
-/
import OvsdbModels.Go.Preview
import OvsdbModels.Proofs.Model.Draft
import OvsdbModels.Proofs.NameMap
import OvsdbModels.Sample.Tables

namespace OvsdbModels

open Attempt

def Model.inPackage (package : String) (model : Model) : Model := { model with package }

theorem Mapper.model_inPackage (mapper : Mapper) (p q name : String) (table : Table) :
    mapper.model q name table = (mapper.model p name table).map (Model.inPackage q) := by
  rw [model_eq, model_eq]
  by_cases hname : Naming.typeName name = ""
  · rw [if_pos hname, if_pos hname]
    rfl
  · rw [if_neg hname, if_neg hname, map_bind]
    refine bind_congr fun identityType => ?_
    rw [map_bind]
    rfl

theorem Mapper.table_of_model {mapper : Mapper} {package name : String} {table : Table}
    {model : Model} (h : mapper.model package name table = .ok model) : model.table = name := by
  obtain ⟨-, -, -, -, -, rfl⟩ := Mapper.model_eq_ok_iff.mp h
  rfl

namespace Go.Job

def all (job : Job) : Job := { job with selection := none }

def only (job : Job) (names : List String) : Job := { job with selection := some names }

theorem tables_all (job : Job) : job.all.tables = .ok job.database.tables.entries :=
  congrArg Except.ok job.database.sortedTables_eq

theorem models_all (job : Job) (p : String) :
    job.all.models =
      ((mapper.models p job.database).map (List.map (Model.inPackage job.package))).mapError
        .mapping := by
  rw [Mapper.models, ← mapM_translate]
  simp only [← Mapper.model_inPackage]
  rfl

theorem models_all_eq_ok_iff {job : Job} {p : String} {models' : List Model} :
    job.all.models = .ok models' ↔ ∃ models, mapper.models p job.database = .ok models ∧
      models' = models.map (Model.inPackage job.package) := by
  rw [models_all job p, mapError_eq_ok_iff]
  cases mapper.models p job.database with
  | error e => exact ⟨fun h => (nomatch h), fun ⟨_, h, _⟩ => (nomatch h)⟩
  | ok models =>
    constructor
    · intro h
      exact ⟨models, rfl, (Except.ok.inj h).symm⟩
    · rintro ⟨_, h, rfl⟩
      obtain rfl := Except.ok.inj h
      rfl

theorem models_all_eq_error_iff {job : Job} {p : String} {error : MappingError} :
    job.all.models = .error (.mapping error) ↔ mapper.models p job.database = .error error := by
  rw [models_all job p]
  cases mapper.models p job.database with
  | error e =>
    constructor
    · intro h
      obtain rfl := JobError.mapping.inj (Except.error.inj h)
      rfl
    · intro h
      obtain rfl := Except.error.inj h
      rfl
  | ok models => exact ⟨fun h => (nomatch h), fun h => (nomatch h)⟩

theorem tables_only {job : Job} {names : List String}
    (h : ∀ name ∈ names, name ∈ job.database.tables.names) :
    (job.only names).tables =
      .ok (job.database.tables.entries.filter fun entry => names.contains entry.1) := by
  have hknown : (names.find? fun name => !job.database.tables.contains name) = none := by
    rw [List.find?_eq_none]
    intro name hname hunknown
    rw [NameMap.contains_iff.mpr (h name hname)] at hunknown
    exact nomatch hunknown
  rw [tables, ← NameMap.select_eq_filter]
  simp only [only, hknown]

theorem models_only {job : Job} {names : List String}
    (h : ∀ name ∈ names, name ∈ job.database.tables.names) :
    (job.only names).models =
      (job.database.tables.entries.filter fun entry => names.contains entry.1).mapM fun entry =>
        (mapper.model job.package entry.1 entry.2).mapError .mapping := by
  rw [models, tables_only h]
  rfl

theorem models_only_of_all {job : Job} {names : List String} {models : List Model}
    (h : ∀ name ∈ names, name ∈ job.database.tables.names) (hall : job.all.models = .ok models) :
    (job.only names).models = .ok (models.filter fun model => names.contains model.table) := by
  rw [Job.models, tables_all] at hall
  rw [models_only h]
  apply mapM_filter _ hall
  intro entry model hmodel
  rw [Mapper.table_of_model (mapError_eq_ok_iff.mp hmodel)]

theorem models_only_unknown {job : Job} {known rest : List String} {name : String}
    (hknown : ∀ other ∈ known, other ∈ job.database.tables.names)
    (hname : name ∉ job.database.tables.names) :
    (job.only (known ++ name :: rest)).models = .error (.unknownTable name job.database.name) := by
  have hfind : ((known ++ name :: rest).find? fun name => !job.database.tables.contains name) =
      some name := by
    rw [List.find?_eq_some_iff_append]
    refine ⟨?_, known, rest, rfl, ?_⟩
    · rw [Bool.not_eq_true', ← Bool.not_eq_true, NameMap.contains_iff]
      exact hname
    · intro other hother
      rw [NameMap.contains_iff.mpr (hknown other hother)]
      rfl
  rw [models, tables]
  simp only [only, hfind]
  rfl

/-- What a selection may hold in a different way: the order of its names and how often they are in
it. -/
theorem models_only_congr {job : Job} {names names' : List String}
    (h : ∀ name ∈ names, name ∈ job.database.tables.names)
    (hsame : ∀ name, name ∈ names ↔ name ∈ names') :
    (job.only names).models = (job.only names').models := by
  have hkeep : ∀ entry : String × Table, names.contains entry.1 = names'.contains entry.1 := by
    intro entry
    rw [Bool.eq_iff_iff, List.contains_iff_mem, List.contains_iff_mem]
    exact hsame entry.1
  rw [models_only h, models_only fun name hname => h name ((hsame name).mpr hname)]
  simp only [hkeep]

/-- A job without a selection does what a mapper does over the whole database; a selection of tables
takes from its result; and of a selection with names that are no tables the first such name is told. -/
theorem models_selection (job : Job) (p : String) :
    (((∃ models, mapper.models p job.database = .ok models) ↔
        ∃ models, job.all.models = .ok models) ∧
      (∀ models models', mapper.models p job.database = .ok models →
        job.all.models = .ok models' → models' = models.map (Model.inPackage job.package)) ∧
      ∀ error, mapper.models p job.database = .error error ↔
        job.all.models = .error (.mapping error)) ∧
    (∀ names, (∀ name ∈ names, name ∈ job.database.tables.names) →
      (∀ names', (∀ name, name ∈ names ↔ name ∈ names') →
        (job.only names).models = (job.only names').models) ∧
      ∀ models, job.all.models = .ok models →
        (job.only names).models = .ok (models.filter fun model => names.contains model.table)) ∧
    ∀ known name rest, (∀ other ∈ known, other ∈ job.database.tables.names) →
      name ∉ job.database.tables.names →
      (job.only (known ++ name :: rest)).models =
        .error (.unknownTable name job.database.name) := by
  refine ⟨⟨?_, ?_, fun error => models_all_eq_error_iff.symm⟩, ?_, ?_⟩
  · constructor
    · rintro ⟨models, h⟩
      exact ⟨_, models_all_eq_ok_iff.mpr ⟨models, h, rfl⟩⟩
    · rintro ⟨models', h⟩
      obtain ⟨models, hmodels, -⟩ := models_all_eq_ok_iff.mp h
      exact ⟨models, hmodels⟩
  · intro models models' h h'
    obtain ⟨_, hmodels, rfl⟩ := models_all_eq_ok_iff.mp h'
    rw [Except.ok.inj (h.symm.trans hmodels)]
  · intro names hnames
    exact ⟨fun names' hsame => models_only_congr hnames hsame,
      fun models hall => models_only_of_all hnames hall⟩
  · intro known name rest hknown hname
    exact models_only_unknown hknown hname

def sample : Job := { database := Sample.database, package := "ovsdb" }

theorem models_only_sample : ∃ models, sample.all.models = .ok models ∧
    (sample.only ["QoS", "Bridge", "QoS"]).models =
      .ok (models.filter fun model => ["QoS", "Bridge", "QoS"].contains model.table) :=
  ⟨_, rfl, ((models_selection sample "check").2.1 ["QoS", "Bridge", "QoS"] (by decide)).2 _ rfl⟩

end Go.Job

end OvsdbModels
