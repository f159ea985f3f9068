/-
  OvsdbModels/Proofs/Go/Identifiers.lean
  ======================================
  **The identifiers of a generated file.**

  Go exports a name that begins with a capital.  If a table and its columns are named by words in ASCII,
  then the record type, its fields, the aliases and the constants have exported names, with one
  exception: the rule for plurals makes the word `s` the plural of an empty initialism, and writes it
  small.  No two declarations of the file share a name, since the names in the draft's log differ and
  each of them is longer than the record's.
-/
import OvsdbModels.Go.Preview
import OvsdbModels.Proofs.Decimal
import OvsdbModels.Proofs.Model.Existence
import OvsdbModels.Proofs.Naming
import OvsdbModels.Sample.Tables

namespace OvsdbModels

open Text (HasForm IsAscii IsLetteredIdentifier)

namespace Go

/-! ### Constants -/

theorem ascii_toString_int (n : Int) : IsAscii (toString n).toList := by
  rw [Decimal.toString_eq_signed]
  exact Decimal.ascii_signed (.toDigits _) _

theorem ascii_spelled {s : List Char} (h : IsAscii s) : IsAscii (spelled s) := by
  unfold spelled
  split
  · exact IsAscii.append (by decide) (h.of_subset (List.subset_cons_self ..))
  · exact h

/-- Whether an atom is in ASCII if it is a text. -/
def IsAsciiAtom : Atom → Prop
  | .string s => IsAscii s.toList
  | _ => True

instance : DecidablePred IsAsciiAtom
  | .string s => inferInstanceAs (Decidable (IsAscii s.toList))
  | .integer _ => isTrue trivial
  | .real _ => isTrue trivial
  | .boolean _ => isTrue trivial

theorem ascii_rawSuffix (naming : Naming) {value : Atom} (h : IsAsciiAtom value) :
    IsAscii (rawSuffix naming value) := by
  cases value with
  | string s =>
    exact Naming.forall_mem_normalize Text.caseClosed_ascii (by decide) naming
      fun c hc => Or.inl (h c hc)
  | integer n => exact ascii_spelled (ascii_toString_int _)
  | real x =>
    refine ascii_spelled ((Decimal.ascii_plain x).map fun c hc => ?_)
    split
    · decide
    · exact hc
  | boolean b => cases b with
    | true => exact (by decide : IsAscii ['T', 'r', 'u', 'e'])
    | false => exact (by decide : IsAscii ['F', 'a', 'l', 's', 'e'])

/-! ### Exported names -/

/-- A name of the form `[A-Z][A-Za-z0-9]*`. -/
def IsExportedWord (name : String) : Prop := HasForm Char.isUpper Char.isAlphanum name.toList

/-- A name of the form `[A-Z][A-Za-z0-9_]*`. -/
def IsExportedName (name : String) : Prop := HasForm Char.isUpper Text.isWordChar name.toList

instance (name : String) : Decidable (IsExportedWord name) := inferInstanceAs (Decidable (HasForm ..))

instance (name : String) : Decidable (IsExportedName name) := inferInstanceAs (Decidable (HasForm ..))

/-- The word characters of a constant's name follow the enumeration's name. -/
theorem exported_constantName (naming : Naming) {enumName : String} {value : Atom}
    (hname : IsExportedWord enumName) (hvalue : IsAsciiAtom value) :
    IsExportedName (constantName naming enumName value) := by
  have hform : HasForm Char.isUpper Text.isWordChar enumName.toList :=
    HasForm.imp (fun _ h => h) (fun _ h => Text.isWordChar_of_isAlphanum h) hname
  rw [IsExportedName, constantName, String.toList_append, String.toList_ofList]
  refine hform.append fun c hc => ?_
  obtain ⟨hmem, hc⟩ := List.mem_filter.mp hc
  rwa [isNameChar, Text.isAlphanumeric_of_ascii (ascii_rawSuffix naming hvalue c hmem)] at hc

theorem exported_enumAlias (naming : Naming) {table column : String}
    (htable : IsLetteredIdentifier table) (hcolumn : IsLetteredIdentifier column) :
    IsExportedWord (naming.enumAlias table column) := by
  rw [IsExportedWord, Naming.enumAlias, String.toList_append]
  refine (Naming.typeName_hasForm htable).append ?_
  exact Naming.forall_mem_normalize Text.caseClosed_isAlphanum (by decide) naming
    fun c hc => (Text.isWordChar_iff c).mp (hcolumn.isWordChar c hc)

end Go

namespace Mapper

/-- A declared name is the record's name with something behind it. -/
theorem exists_of_mem_declaredNames {naming : Naming} {table declared : String}
    {entry : String × Column}
    (h : declared ∈ (Mapper.mk Go.target naming).declaredNames table entry) :
    ∃ suffix, declared = Naming.typeName table ++ naming.normalize entry.1 ++ suffix := by
  unfold declaredNames at h
  split at h
  · exact absurd h List.not_mem_nil
  · rcases List.mem_cons.mp h with rfl | h
    · exact ⟨"", (String.append_empty ..).symm⟩
    · obtain ⟨value, -, rfl⟩ := List.mem_map.mp h
      exact ⟨_, rfl⟩

theorem typeName_notMem_declaredNames {naming : Naming} {table : String} {entry : String × Column}
    (h : naming.normalize entry.1 ≠ "") :
    Naming.typeName table ∉ (Mapper.mk Go.target naming).declaredNames table entry := by
  intro hmem
  obtain ⟨suffix, heq⟩ := exists_of_mem_declaredNames hmem
  have hlength := congrArg String.length heq
  rw [String.length_append, String.length_append] at hlength
  have hzero : (naming.normalize entry.1).length = 0 := by omega
  exact h (String.length_eq_zero_iff.mp hzero)

/-- The names that the enumerations of a model declare. -/
theorem flatMap_enumNames (mapper : Mapper) (name identityType : String) (table : Table) :
    ((mapper.draftOf name identityType table).enums.flatMap fun e => e.name :: e.constantNames) =
      table.columns.entries.flatMap (mapper.declaredNames name) := by
  rw [draftOf_enums, List.flatMap_assoc]
  congr 1
  funext entry
  unfold resolved enumOf declaredNames
  cases entry.2.key.allowed with
  | none => rfl
  | some values => exact List.append_nil _

theorem exists_of_mem_enums {naming : Naming} {name identityType : String} {table : Table}
    {e : Enumeration}
    (h : e ∈ (draftOf (Mapper.mk Go.target naming) name identityType table).enums) :
    ∃ entry ∈ table.columns.entries, ∃ values ∈ entry.2.key.allowed,
      e.name = naming.enumAlias name entry.1 ∧
        e.constantNames = values.map (Go.constantName naming e.name) := by
  rw [draftOf_enums] at h
  obtain ⟨entry, hentry, h⟩ := List.mem_flatMap.mp h
  obtain ⟨values, hallowed, rfl⟩ := Option.map_eq_some_iff.mp (Option.mem_toList.mp h)
  exact ⟨entry, hentry, values, hallowed, rfl, rfl⟩

/-! ### All names of a file -/

/-- The names of a model of a table whose column names and literals are in ASCII. -/
structure Exported (naming : Naming) (model : Model) : Prop where
  record : Go.IsExportedWord model.structName
  /-- A field's name is exported, unless the column begins with the plural of nothing. -/
  fields : ∀ field ∈ model.fields, Go.IsExportedWord field.name ∨
    ("" ∈ naming.initialisms ∧ Naming.firstWord? field.column = some ['s'])
  aliases : ∀ e ∈ model.enums, Go.IsExportedWord e.name
  constants : ∀ e ∈ model.enums, ∀ name ∈ e.constantNames, Go.IsExportedName name
  distinct : (model.structName :: model.enums.flatMap fun e => e.name :: e.constantNames).Nodup

theorem exported_field (naming : Naming) {column : String} (h : IsLetteredIdentifier column) :
    Go.IsExportedWord (naming.normalize column) ∨
      ("" ∈ naming.initialisms ∧ Naming.firstWord? column = some ['s']) := by
  by_cases hplural : "" ∈ naming.initialisms ∧ Naming.firstWord? column = some ['s']
  · exact Or.inr hplural
  · exact Or.inl (Naming.normalize_hasForm h fun hempty hword => hplural ⟨hempty, hword⟩)

/-- The identifiers of a model are exported Go names, and the top-level ones differ. -/
theorem exported_of_model {naming : Naming} {package name : String} {table : Table} {model : Model}
    (hname : IsLetteredIdentifier name)
    (hcolumns : ∀ column ∈ table.columns.names, IsLetteredIdentifier column)
    (hvalues : ∀ entry ∈ table.columns.entries, ∀ values ∈ entry.2.key.allowed,
      ∀ value ∈ values, Go.IsAsciiAtom value)
    (h : (Mapper.mk Go.target naming).model package name table = .ok model) :
    Exported naming model := by
  obtain ⟨-, identityType, -, husable, hdistinct, rfl⟩ := model_eq_ok_iff.mp h
  have hdeclared := ((draftOf_distinct_iff _ name identityType table).mp hdistinct).2
  have hcolumn : ∀ entry ∈ table.columns.entries, IsLetteredIdentifier entry.1 :=
    fun entry hentry => hcolumns entry.1 (List.mem_map_of_mem hentry)
  have halias : ∀ e ∈ (draftOf (Mapper.mk Go.target naming) name identityType table).enums,
      Go.IsExportedWord e.name := by
    intro e he
    obtain ⟨entry, hentry, -, -, heq, -⟩ := exists_of_mem_enums he
    rw [heq]
    exact Go.exported_enumAlias naming hname (hcolumn entry hentry)
  constructor
  case record => exact Naming.typeName_hasForm hname
  case fields =>
    intro field hfield
    rw [draftOf_fields, List.mem_cons, List.mem_map] at hfield
    rcases hfield with rfl | ⟨entry, hentry, rfl⟩
    · exact Or.inl (by decide : Go.IsExportedWord "UUID")
    · exact exported_field naming (hcolumn entry hentry)
  case aliases => exact halias
  case constants =>
    intro e he constant hconstant
    obtain ⟨entry, hentry, values, hallowed, -, hconstants⟩ := exists_of_mem_enums he
    rw [hconstants] at hconstant
    obtain ⟨value, hvalue, rfl⟩ := List.mem_map.mp hconstant
    exact Go.exported_constantName naming (halias e he)
      (hvalues entry hentry values hallowed value hvalue)
  case distinct =>
    rw [flatMap_enumNames, List.nodup_cons]
    refine ⟨fun hmem => ?_, hdeclared⟩
    obtain ⟨entry, hentry, hmem⟩ := List.mem_flatMap.mp hmem
    exact typeName_notMem_declaredNames (husable entry hentry).1 hmem

theorem exported_of_qos : ∃ model,
    IsLetteredIdentifier "QoS" ∧
    (∀ column ∈ Sample.qos.columns.names, IsLetteredIdentifier column) ∧
    (∀ entry ∈ Sample.qos.columns.entries, ∀ values ∈ entry.2.key.allowed,
      ∀ value ∈ values, Go.IsAsciiAtom value) ∧
    (Mapper.mk Go.target .ovsdb).model "vswitchd" "QoS" Sample.qos = .ok model ∧
    Exported .ovsdb model ∧ model.enums ≠ [] := by
  have hname : IsLetteredIdentifier "QoS" := by decide
  have hcolumns : ∀ column ∈ Sample.qos.columns.names, IsLetteredIdentifier column := by decide
  have hvalues : ∀ entry ∈ Sample.qos.columns.entries, ∀ values ∈ entry.2.key.allowed,
      ∀ value ∈ values, Go.IsAsciiAtom value := by decide
  exact ⟨_, hname, hcolumns, hvalues, rfl, exported_of_model hname hcolumns hvalues rfl, by decide⟩

/-- With an empty initialism the field of the column `s` has a small name. -/
theorem not_exported_of_empty_initialism : ∃ model,
    IsLetteredIdentifier "T" ∧
    (∀ column ∈ (Table.ofColumns [("s", .plain .string)]).columns.names,
      IsLetteredIdentifier column) ∧
    (∀ entry ∈ (Table.ofColumns [("s", .plain .string)]).columns.entries,
      ∀ values ∈ entry.2.key.allowed, ∀ value ∈ values, Go.IsAsciiAtom value) ∧
    (Mapper.mk Go.target ⟨[""]⟩).model "p" "T" (.ofColumns [("s", .plain .string)]) = .ok model ∧
    ∃ field ∈ model.fields, field.column = "s" ∧ ¬ Go.IsExportedWord field.name := by
  refine ⟨_, by decide, by decide, by decide, rfl, ⟨"s", "s", "string"⟩, ?_, rfl, by decide⟩
  exact List.mem_cons_of_mem _ List.mem_cons_self

end Mapper

end OvsdbModels
