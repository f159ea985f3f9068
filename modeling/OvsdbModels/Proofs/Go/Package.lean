/-
  OvsdbModels/Proofs/Go/Package.lean
  ==================================
  **The identifiers of a package.**

  All files of a schema share one package, but every table is mapped on its own: what a file declares is
  told apart within the table alone.  Since every identifier of a file begins with the name of the file's
  record, two files whose records have different names can meet only where one record's name begins with
  the other's, and only in a name that an enumeration of the other gives (`Model.ClearOf`).  They do meet
  in a schema with a column `mode` in the table `Port` and with a table `PortMode`.
-/
import OvsdbModels.Proofs.Go.Identifiers
import OvsdbModels.Proofs.Model.Contents
import OvsdbModels.Schema.Validation

namespace OvsdbModels

open Attempt

/-- The names of the aliases and constants that a model's file declares. -/
def Model.enumNames (model : Model) : List String :=
  model.enums.flatMap fun e => e.name :: e.constantNames

/-- The identifiers that a model's file declares in the package. -/
def Model.identifiers (model : Model) : List String := model.structName :: model.enumNames

/-- Whether an identifier begins with another one. -/
def BeginsWith (identifier stem : String) : Prop := stem.toList <+: identifier.toList

instance (identifier stem : String) : Decidable (BeginsWith identifier stem) :=
  inferInstanceAs (Decidable (_ <+: _))

namespace BeginsWith

theorem append (stem suffix : String) : BeginsWith (stem ++ suffix) stem := by
  rw [BeginsWith, String.toList_append]
  exact List.prefix_append ..

/-- Of two stems of one identifier, one begins with the other. -/
theorem total {identifier stem stem' : String} (h : BeginsWith identifier stem)
    (h' : BeginsWith identifier stem') : BeginsWith stem' stem ∨ BeginsWith stem stem' :=
  List.prefix_or_prefix_of_prefix h h'

theorem antisymm {s t : String} (h : BeginsWith s t) (h' : BeginsWith t s) : s = t :=
  String.toList_injective (h'.eq_of_length_le h.length_le)

end BeginsWith

/-! ### Files that meet -/

/-- Whether a record that begins with another record's name keeps clear of the other one's
enumerations: no identifier of its file is the name of an alias or a constant there. -/
def Model.ClearOf (model other : Model) : Prop :=
  BeginsWith model.structName other.structName → model.identifiers.Disjoint other.enumNames

/-- Whether the names of records differ, and none begins with that of another table that has an
enumeration. -/
structure Database.NamesApart (db : Database) : Prop where
  distinct : (db.tables.names.map Naming.typeName).Nodup
  apart : ∀ entry ∈ db.tables.entries,
    (∃ column ∈ entry.2.columns.entries, column.2.key.isEnum = true) →
      ∀ name ∈ db.tables.names, name ≠ entry.1 →
        ¬ BeginsWith (Naming.typeName name) (Naming.typeName entry.1)

namespace Model

variable {a b : Model}

/-- Files meet in a record's name only if their records have the same name. -/
theorem disjoint_of_beginsWith (ha : ∀ identifier ∈ a.identifiers, BeginsWith identifier a.structName)
    (hne : a.structName ≠ b.structName) (hclear : a.ClearOf b)
    (hbegins : BeginsWith a.structName b.structName) : a.identifiers.Disjoint b.identifiers := by
  intro identifier hidentifier hidentifier'
  rcases List.mem_cons.mp hidentifier' with rfl | henum
  · exact hne (hbegins.antisymm (ha _ hidentifier))
  · exact hclear hbegins hidentifier henum

theorem disjoint_identifiers
    (ha : ∀ identifier ∈ a.identifiers, BeginsWith identifier a.structName)
    (hb : ∀ identifier ∈ b.identifiers, BeginsWith identifier b.structName)
    (hne : a.structName ≠ b.structName) (hab : a.ClearOf b) (hba : b.ClearOf a) :
    a.identifiers.Disjoint b.identifiers := by
  intro identifier hidentifier hidentifier'
  rcases (ha identifier hidentifier).total (hb identifier hidentifier') with hbegins | hbegins
  · exact disjoint_of_beginsWith hb (Ne.symm hne) hba hbegins hidentifier' hidentifier
  · exact disjoint_of_beginsWith ha hne hab hbegins hidentifier hidentifier'

theorem ClearOf.of_disjoint (h : a.identifiers.Disjoint b.identifiers) : a.ClearOf b :=
  fun _ _ hidentifier henum => h hidentifier (List.mem_cons_of_mem _ henum)

end Model

namespace Mapper

variable {naming : Naming}

/-! ### The identifiers of one file -/

theorem identifiers_of_model {mapper : Mapper} {package name : String} {table : Table}
    {model : Model} (h : mapper.model package name table = .ok model) :
    model.structName = Naming.typeName name ∧
      model.identifiers =
        Naming.typeName name :: table.columns.entries.flatMap (mapper.declaredNames name) := by
  obtain ⟨-, identityType, -, -, -, rfl⟩ := model_eq_ok_iff.mp h
  refine ⟨rfl, ?_⟩
  rw [Model.identifiers, Model.enumNames, flatMap_enumNames]

theorem nodup_identifiers_of_model {package name : String} {table : Table} {model : Model}
    (h : (Mapper.mk Go.target naming).model package name table = .ok model) :
    model.identifiers.Nodup := by
  obtain ⟨-, hidentifiers⟩ := identifiers_of_model h
  obtain ⟨-, identityType, -, husable, hdistinct, -⟩ := model_eq_ok_iff.mp h
  rw [hidentifiers, List.nodup_cons]
  constructor
  · intro hmem
    obtain ⟨entry, hentry, hmem⟩ := List.mem_flatMap.mp hmem
    exact typeName_notMem_declaredNames (husable entry hentry).1 hmem
  · exact ((draftOf_distinct_iff _ name identityType table).mp hdistinct).2

theorem beginsWith_of_mem_identifiers {package name identifier : String} {table : Table}
    {model : Model} (h : (Mapper.mk Go.target naming).model package name table = .ok model)
    (hmem : identifier ∈ model.identifiers) : BeginsWith identifier model.structName := by
  obtain ⟨hname, hidentifiers⟩ := identifiers_of_model h
  rw [hidentifiers] at hmem
  rw [hname]
  rcases List.mem_cons.mp hmem with rfl | hmem
  · exact List.prefix_refl _
  · obtain ⟨entry, -, hmem⟩ := List.mem_flatMap.mp hmem
    obtain ⟨suffix, rfl⟩ := exists_of_mem_declaredNames hmem
    rw [String.append_assoc]
    exact BeginsWith.append ..

/-! ### The identifiers of all files -/

theorem structNames_of_models {mapper : Mapper} {package : String} {db : Database}
    {models : List Model} (h : mapper.models package db = .ok models) :
    models.map (·.structName) = db.tables.names.map Naming.typeName := by
  replace h := models_eq_ok_iff.mp h
  rw [NameMap.names, List.map_map]
  generalize db.tables.entries = entries at h ⊢
  induction h with
  | nil => rfl
  | cons hmodel _ ih =>
    rw [List.map_cons, List.map_cons, ih, (identifiers_of_model hmodel).1]
    rfl

theorem enumNames_eq_nil {mapper : Mapper} {package name : String} {table : Table} {model : Model}
    (h : mapper.model package name table = .ok model)
    (hnone : ¬ ∃ column ∈ table.columns.entries, column.2.key.isEnum = true) :
    model.enumNames = [] := by
  have henums := (contents_of_model h).enums
  have hfilter : (table.columns.entries.filter fun entry => entry.2.key.isEnum) = [] :=
    List.filter_eq_nil_iff.mpr fun column hcolumn henum => hnone ⟨column, hcolumn, henum⟩
  rw [hfilter, List.forall₂_nil_left_iff] at henums
  rw [Model.enumNames, henums]
  rfl

/-- Where the identifiers of every file differ and begin with the name of its record, those of all
files differ exactly if the records have different names and keep clear of each other's enumerations. -/
theorem nodup_identifiers_iff {models : List Model} (hown : ∀ model ∈ models, model.identifiers.Nodup)
    (hstem : ∀ model ∈ models, ∀ identifier ∈ model.identifiers,
      BeginsWith identifier model.structName) :
    (models.flatMap (·.identifiers)).Nodup ↔
      (models.map (·.structName)).Nodup ∧ models.Pairwise fun a b => a.ClearOf b ∧ b.ClearOf a := by
  rw [List.nodup_flatMap, List.Nodup, List.pairwise_map]
  constructor
  · rintro ⟨-, hdisjoint⟩
    refine ⟨hdisjoint.imp fun hab heq => ?_, hdisjoint.imp fun hab => ?_⟩
    · exact hab List.mem_cons_self (heq ▸ List.mem_cons_self)
    · exact ⟨.of_disjoint hab, .of_disjoint (List.disjoint_symm hab)⟩
  · rintro ⟨hnames, hclear⟩
    refine ⟨hown, (hnames.and hclear).imp_of_mem fun {a b} ha hb ⟨hne, hab, hba⟩ => ?_⟩
    exact Model.disjoint_identifiers (hstem a ha) (hstem b hb) hne hab hba

theorem clearOf_of_namesApart {mapper : Mapper} {package : String} {db : Database} {a b : Model}
    {entry entry' : String × Table} (h : db.NamesApart) (hentry : entry ∈ db.tables.entries)
    (hentry' : entry' ∈ db.tables.entries) (ha : mapper.model package entry.1 entry.2 = .ok a)
    (hb : mapper.model package entry'.1 entry'.2 = .ok b) (hne : a.structName ≠ b.structName) :
    a.ClearOf b := by
  intro hbegins
  rw [(identifiers_of_model ha).1, (identifiers_of_model hb).1] at hne hbegins
  -- the tables differ, since their records do
  have hname : entry.1 ≠ entry'.1 := fun heq => hne (congrArg _ heq)
  have hnone : ¬ ∃ column ∈ entry'.2.columns.entries, column.2.key.isEnum = true := fun henum =>
    h.apart entry' hentry' henum entry.1 (List.mem_map_of_mem hentry) hname hbegins
  rw [enumNames_eq_nil hb hnone]
  exact List.disjoint_nil_right _

/-- The identifiers of every file differ, and they all begin with the name of its record.  The
identifiers of all files differ exactly if the names of the records do and a record whose name begins
with another one's keeps clear of the other's enumerations.  It is enough that no record's name begins
with that of another table that has an enumeration. -/
theorem identifiers_of_models {package : String} {db : Database} {models : List Model}
    (h : (Mapper.mk Go.target naming).models package db = .ok models) :
    (∀ model ∈ models, model.identifiers.Nodup ∧
      ∀ identifier ∈ model.identifiers, BeginsWith identifier model.structName) ∧
    ((models.flatMap (·.identifiers)).Nodup ↔
      (db.tables.names.map Naming.typeName).Nodup ∧
        models.Pairwise fun a b => a.ClearOf b ∧ b.ClearOf a) ∧
    (db.NamesApart → (models.flatMap (·.identifiers)).Nodup) := by
  have hmodel : ∀ model ∈ models, ∃ entry ∈ db.tables.entries,
      (Mapper.mk Go.target naming).model package entry.1 entry.2 = .ok model :=
    fun model hmem => exists_of_forall₂_right (models_eq_ok_iff.mp h) hmem
  have hown : ∀ model ∈ models, model.identifiers.Nodup := by
    intro model hmem
    obtain ⟨entry, -, hmap⟩ := hmodel model hmem
    exact nodup_identifiers_of_model hmap
  have hstem : ∀ model ∈ models, ∀ identifier ∈ model.identifiers,
      BeginsWith identifier model.structName := by
    intro model hmem identifier hidentifier
    obtain ⟨entry, -, hmap⟩ := hmodel model hmem
    exact beginsWith_of_mem_identifiers hmap hidentifier
  have hall := nodup_identifiers_iff hown hstem
  rw [structNames_of_models h] at hall
  refine ⟨fun model hmem => ⟨hown model hmem, hstem model hmem⟩, hall, fun hapart => ?_⟩
  have hclear : ∀ a ∈ models, ∀ b ∈ models, a.structName ≠ b.structName → a.ClearOf b := by
    intro a ha b hb hne
    obtain ⟨entry, hentry, hmap⟩ := hmodel a ha
    obtain ⟨entry', hentry', hmap'⟩ := hmodel b hb
    exact clearOf_of_namesApart hapart hentry hentry' hmap hmap' hne
  have hnames := hapart.distinct
  rw [← structNames_of_models h, List.Nodup, List.pairwise_map] at hnames
  exact hall.mpr ⟨hapart.distinct, hnames.imp_of_mem fun {a b} ha hb hne =>
    ⟨hclear a ha b hb hne, hclear b hb a ha (Ne.symm hne)⟩⟩

/-- The sample database with one more table, whose record's name begins with that of the table `Port`,
which has no enumeration. -/
def portStates : Database :=
  let states := Table.ofColumns [("phase", Sample.columnOf (.scalar (Sample.oneOf ["up", "down"])))]
  { Sample.database with tables := Sample.database.tables.insert "Port_State" states }

theorem identifiers_of_sample : ∃ models,
    Go.mapper.models "p" portStates = .ok models ∧ portStates.NamesApart ∧
    BeginsWith (Naming.typeName "Port_State") (Naming.typeName "Port") ∧
    (models.flatMap (·.identifiers)).length = 24 ∧ (models.flatMap (·.identifiers)).Nodup := by
  have hmodels : Go.mapper.models "p" portStates = .ok _ := rfl
  have hapart : portStates.NamesApart := by constructor <;> decide
  exact ⟨_, hmodels, hapart, by decide, rfl, (identifiers_of_models hmodels).2.2 hapart⟩

/-- An enumeration of one table and the record of another one have the same name. -/
theorem identifiers_meet : ∃ db models,
    Database.parse ("\x7b\"name\":\"s\",\"version\":\"1.0.0\",\"tables\":\x7b" ++
      "\"Port\":\x7b\"columns\":\x7b\"mode\":\x7b\"type\":\x7b\"key\":\x7b\"type\":\"string\"," ++
      "\"enum\":\"access\"\x7d\x7d\x7d\x7d\x7d,\"PortMode\":\x7b\"columns\":\x7b\x7d\x7d\x7d\x7d") =
        .ok db ∧
    Go.mapper.models "p" db = .ok models ∧
    models.map (·.identifiers) = [["Port", "PortMode", "PortModeAccess"], ["PortMode"]] ∧
    ¬ (models.flatMap (·.identifiers)).Nodup := by
  have hread : ((Database.parse ("\x7b\"name\":\"s\",\"version\":\"1.0.0\",\"tables\":\x7b" ++
      "\"Port\":\x7b\"columns\":\x7b\"mode\":\x7b\"type\":\x7b\"key\":\x7b\"type\":\"string\"," ++
      "\"enum\":\"access\"\x7d\x7d\x7d\x7d\x7d,\"PortMode\":\x7b\"columns\":\x7b\x7d\x7d\x7d\x7d")).toOption.bind
        fun db => (Go.mapper.models "p" db).toOption.map fun models =>
          models.map (·.identifiers)) =
      some [["Port", "PortMode", "PortModeAccess"], ["PortMode"]] := by decide +kernel
  obtain ⟨db, hparse, hmap⟩ := Option.bind_eq_some_iff.mp hread
  obtain ⟨models, hmodels, hidentifiers⟩ := Option.map_eq_some_iff.mp hmap
  refine ⟨db, models, toOption_eq_some_iff.mp hparse, toOption_eq_some_iff.mp hmodels,
    hidentifiers, ?_⟩
  rw [List.flatMap_def, hidentifiers]
  decide

end Mapper

end OvsdbModels
