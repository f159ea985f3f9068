/-
  OvsdbModels/Proofs/Go/Constants.lean
  ====================================
  **Constants of the right type.**

  A literal is read for the type that stands beside it, the check of the schema refuses literals of
  another type, but only where it knows the type, and the mapper refuses the types it does not know.
  Together they leave no constant whose literal is not of the type behind its alias.
-/
import OvsdbModels.Proofs.Decimal
import OvsdbModels.Proofs.Go.Paths
import OvsdbModels.Proofs.Model.Contents
import OvsdbModels.Proofs.Schema.Finite
import OvsdbModels.Proofs.Schema.Validation

namespace OvsdbModels

open Attempt

namespace Go

open Decimal (IsDigits signed)

/-! ### Literals -/

/-- The types of constants, and how their literals are written. -/
inductive IsLiteral : String → String → Prop where
  | int {negative : Bool} {digits : List Char} (h : IsDigits digits) :
      IsLiteral "int" (signed negative digits)
  | float64 {negative : Bool} {whole fraction : List Char} (hwhole : IsDigits whole)
      (hfraction : IsDigits fraction) (hplaces : fraction.length = 6) :
      IsLiteral "float64" (signed negative (whole ++ '.' :: fraction))
  | bool (b : Bool) : IsLiteral "bool" (if b then "true" else "false")
  | string (s : String) : IsLiteral "string" ("\"" ++ s ++ "\"")

theorem isLiteral_fixed {x : Float} (h : Decimal.IsFinite x) :
    IsLiteral "float64" (Decimal.fixed 6 x) := by
  obtain ⟨negative, m, q, hx⟩ := h
  obtain ⟨whole, fraction, hfixed, hwhole, hfraction, hplaces⟩ := Decimal.exists_fixedDigits 6
    (Decimal.roundDiv (m * Nat.pow 2 q.toNat * Nat.pow 10 6) (Nat.pow 2 (-q).toNat))
  unfold Decimal.fixed
  simp only [hx, hfixed]
  refine .float64 hwhole ⟨?_, hfraction⟩ hplaces
  rintro rfl
  simp at hplaces

/-- The literal of an atom is one of the type that its own type has in Go. -/
theorem isLiteral_literal {value : Atom} {type : String} (hfinite : value.IsFinite)
    (htype : target.atomic value.atomicType = some type) : IsLiteral type (literal value) := by
  cases value with
  | integer n =>
    obtain rfl := Option.some.inj htype
    rw [literal, Decimal.toString_eq_signed]
    exact .int (Decimal.isDigits_toDigits _)
  | real x =>
    obtain rfl := Option.some.inj htype
    exact isLiteral_fixed hfinite
  | boolean b =>
    obtain rfl := Option.some.inj htype
    exact .bool b
  | string s =>
    obtain rfl := Option.some.inj htype
    exact .string s

/-! ### Enumerations -/

/-- An enumeration that only has values of its type, and declares each of them by its literal. -/
structure WellTyped (e : Enumeration) : Prop where
  type : target.atomic e.atomic = some e.type
  supported : e.atomic.isSupported = true
  values : ∀ value ∈ e.values, value.atomicType = e.atomic
  /-- There are no literals of row identities. -/
  identities : e.atomic = .uuid → e.values = []
  constants : List.Forall₂
    (fun value row => ∃ name, row = [name, e.name, "= " ++ literal value] ∧
      IsLiteral e.type (literal value))
    e.values (constantRows e)

theorem isSupported_of_atomic {atomic : AtomicType} {type : String}
    (h : target.atomic atomic = some type) : atomic.isSupported = true := by
  cases atomic with
  | unsupported name => exact nomatch h
  | _ => rfl

/-- The rows of constants follow the values if there is a name for each of them. -/
theorem forall₂_constantRows {e : Enumeration} {p : Atom → Prop}
    (hlength : e.constantNames.length = e.values.length) (hp : ∀ value ∈ e.values, p value) :
    List.Forall₂ (fun value row => ∃ name, row = [name, e.name, "= " ++ literal value] ∧ p value)
      e.values (constantRows e) := by
  unfold constantRows Enumeration.constants
  generalize e.values = values at hlength hp
  generalize e.constantNames = names at hlength
  induction values generalizing names with
  | nil => simp
  | cons value values ih =>
    cases names with
    | nil => simp at hlength
    | cons name names =>
      obtain ⟨hvalue, hrest⟩ := List.forall_mem_cons.mp hp
      refine .cons ⟨name, rfl, hvalue⟩ (ih hrest names ?_)
      simpa using hlength

/-- The enumeration of a column of a valid and finite database is well typed. -/
theorem wellTyped_of_isEnumOf {db : Database} {table : String} {entry : String × Column}
    {e : Enumeration} (hvalid : db.Valid) (hfinite : entry.2.type.IsFinite)
    (hcolumn : db.HasColumn table entry.1 entry.2) (h : mapper.IsEnumOf table entry e) :
    WellTyped e := by
  obtain ⟨hatomic, hmapped⟩ := h.type_eq
  have htype : target.atomic e.atomic = some e.type := hmapped
  have hallowed := h.values
  have hsupported := isSupported_of_atomic htype
  have hvalues : ∀ value ∈ e.values, value.atomicType = e.atomic := by
    have hbase : entry.2.base? .key = some entry.2.key := rfl
    rw [hatomic] at hsupported ⊢
    exact hvalid.literals hcolumn hbase hsupported hallowed
  have hliterals : ∀ value ∈ e.values, IsLiteral e.type (literal value) := by
    intro value hvalue
    apply isLiteral_literal
    · exact hfinite entry.2.key List.mem_cons_self e.values hallowed value hvalue
    · rw [hvalues value hvalue, htype]
  constructor
  case type => exact htype
  case supported => exact hsupported
  case values => exact hvalues
  case identities =>
    intro huuid
    apply List.eq_nil_iff_forall_not_mem.mpr
    intro value hvalue
    have hkind := hvalues value hvalue
    rw [huuid] at hkind
    cases value with
    | _ => exact nomatch hkind
  case constants => exact forall₂_constantRows h.length hliterals

/-! ### Models of a job -/

/-- Every enumeration of the models of a schema that was read is well typed. -/
theorem wellTyped_of_models {source : String} {job : Job} {models : List Model}
    (hparse : Database.parse source = .ok job.database) (hmodels : job.models = .ok models) :
    ∀ model ∈ models, ∀ e ∈ model.enums, WellTyped e := by
  obtain ⟨hread, hvalid⟩ := Database.parse_eq_ok_iff.mp hparse
  have hfinite : job.database.IsFinite := Json.of_readAll Database.ensures_reader hread
  obtain ⟨entries, htables, hmap⟩ := bind_eq_ok_iff.mp hmodels
  intro model hmodel e he
  obtain ⟨entry, hentry, hresult⟩ := exists_of_forall₂_right (mapM_eq_ok_iff.mp hmap) hmodel
  have hcontents := Mapper.contents_of_model (mapError_eq_ok_iff.mp hresult)
  obtain ⟨column, hcolumn, henum⟩ := exists_of_forall₂_right hcontents.enums he
  have htable : entry ∈ job.database.tables.entries := (Job.tables_sublist htables).subset hentry
  have hmem : column ∈ entry.2.columns.entries := List.mem_of_mem_filter hcolumn
  have hhas : job.database.HasColumn entry.1 column.1 column.2 :=
    ⟨entry.2, NameMap.get?_eq_some_iff.mpr htable, NameMap.get?_eq_some_iff.mpr hmem⟩
  exact wellTyped_of_isEnumOf hvalid (hfinite entry htable column hmem) hhas henum

/-- A job for a table with two enumerations, one of them of the keys of a map. -/
def levels : Job where
  database := {
    name := "s"
    version := "1.0.0"
    tables := .ofList [("T", .ofColumns [
      ("level", Sample.columnOf (.map
        ((BaseType.plain .integer).withAllowed [.integer 1, .integer (-2)]) (.plain .string))),
      ("ratio", Sample.columnOf (.scalar
        ((BaseType.plain .real).withAllowed [.real 0.5, .real 1])))])] }
  package := "p"

theorem wellTyped_of_levels : ∃ source models, Database.parse source = .ok levels.database ∧
    levels.models = .ok models ∧ (models.flatMap (·.enums)).map (·.type) = ["int", "float64"] ∧
    ∀ model ∈ models, ∀ e ∈ model.enums, WellTyped e := by
  have hread : (Database.parse ("\x7b\"name\":\"s\",\"version\":\"1.0.0\",\"tables\":" ++
      "\x7b\"T\":\x7b\"columns\":\x7b\"level\":\x7b\"type\":\x7b\"key\":\x7b\"type\":\"integer\"," ++
      "\"enum\":[\"set\",[1,-2]]\x7d,\"value\":\"string\",\"min\":0,\"max\":\"unlimited\"\x7d\x7d," ++
      "\"ratio\":\x7b\"type\":\x7b\"key\":\x7b\"type\":\"real\",\"enum\":[\"set\",[5e-1,1]]\x7d" ++
      "\x7d\x7d\x7d\x7d\x7d\x7d")).toOption = some levels.database := by decide +kernel
  have hmodels : (levels.models.toOption.map fun models => (models.flatMap (·.enums)).map (·.type)) =
      some ["int", "float64"] := by decide +kernel
  obtain ⟨models, hoption, htypes⟩ := Option.map_eq_some_iff.mp hmodels
  have hparse := toOption_eq_some_iff.mp hread
  have hjob := toOption_eq_some_iff.mp hoption
  exact ⟨_, models, hparse, hjob, htypes, wellTyped_of_models hparse hjob⟩

end Go

end OvsdbModels
