/-
  OvsdbModels/Proofs/Go/Literals.lean
  ===================================
  **What the literals of a file stand for.**

  Every value of an enumeration has a line in the group of constants, and its literal stands at the end
  of the line.  Integers and truth values are read back as they are.  A string is written between quotes
  without escapes, so it is read back exactly if all its characters may stand for themselves there
  (`literals_of_models`).
-/
import OvsdbModels.Proofs.Go.Constants
import OvsdbModels.Proofs.Go.Digest
import OvsdbModels.Proofs.Go.Lexical

namespace OvsdbModels.Go

open Attempt
open Source (cellText widthOf)
open Text (unlines)

/-! ### One literal -/

/-- The constant that a value is in Go; reals are left out. -/
def constantOf? : Atom → Option Constant
  | .integer n => some (.integer n.toInt)
  | .real _ => none
  | .boolean b => some (.boolean b)
  | .string s => some (.text (Text.bytes s))

/-- Whether the characters of a value may all stand for themselves between double quotes. -/
def IsVerbatim (strict : Bool) : Atom → Prop
  | .string s => ∀ c ∈ s.toList, StandsForItself strict c
  | _ => True

theorem constant?_of_digit {strict : Bool} {digits : List Char} (h : Decimal.IsDigits digits) :
    constant? strict digits = (natural? digits).map fun n : Nat => .integer n := by
  obtain ⟨hne, hdigit⟩ := h
  unfold constant? literal?
  split
  · exact absurd (hdigit '-' List.mem_cons_self) (by decide)
  · split
    · exact absurd (hdigit 't' List.mem_cons_self) (by decide)
    · exact absurd (hdigit 'f' List.mem_cons_self) (by decide)
    · exact absurd (hdigit '"' List.mem_cons_self) (by decide)
    · rfl

theorem constant?_toString (strict : Bool) (n : Int) :
    constant? strict (toString n).toList = some (.integer n) := by
  rw [Decimal.toString_eq_signed, Decimal.signed, String.toList_ofList]
  by_cases hneg : n < 0
  · rw [decide_eq_true hneg]
    have hvalue : -(n.natAbs : Int) = n := by omega
    simp only [if_true, constant?, natural?_toDigits, Option.map_some, hvalue]
  · rw [decide_eq_false hneg]
    have hvalue : (n.natAbs : Int) = n := by omega
    simp only [Bool.false_eq_true, if_false]
    rw [constant?_of_digit (Decimal.isDigits_toDigits _), natural?_toDigits, Option.map_some, hvalue]

theorem constant?_enquote (strict : Bool) (s : String) :
    constant? strict (Target.enquote s).toList = (contents? strict 0 s.toList).map .text := by
  have htext : (Target.enquote s).toList = '"' :: (s.toList ++ ['"']) := by
    simp [Target.enquote]
  have hquote (rest : List Char) : constant? strict ('"' :: rest) =
      if rest.getLast? = some '"' then (contents? strict 0 rest.dropLast).map .text else none := rfl
  rw [htext, hquote, if_pos List.getLast?_concat, List.dropLast_concat]

/-- The literal of a value stands for the value exactly if the value is verbatim. -/
theorem constant?_literal_iff {strict : Bool} {value : Atom} {constant : Constant}
    (h : constantOf? value = some constant) :
    constant? strict (literal value).toList = some constant ↔ IsVerbatim strict value := by
  cases value with
  | integer n =>
    obtain rfl := Option.some.inj h
    exact iff_of_true (constant?_toString strict _) trivial
  | real x => exact nomatch h
  | boolean b =>
    obtain rfl := Option.some.inj h
    cases b with
    | true => exact iff_of_true rfl trivial
    | false => exact iff_of_true rfl trivial
  | string s =>
    obtain rfl := Option.some.inj h
    rw [literal, constant?_enquote, Text.bytes_eq_flatMap]
    constructor
    · intro heq
      obtain ⟨bytes, hcontents, hbytes⟩ := Option.map_eq_some_iff.mp heq
      obtain rfl := Constant.text.inj hbytes
      exact contents?_eq_bytes_iff.mp hcontents
    · intro hself
      rw [contents?_eq_bytes_iff.mpr hself]
      rfl

/-! ### The group of constants -/

/-- The line of a constant: its name, its alias and its literal, lined up with the other constants. -/
def Digest.constantLine (d : Digest) (entry : String × String × String) : String :=
  "\t" ++ cellText (widthOf (d.constants.map (·.1))) entry.1 ++
    cellText (widthOf (d.constants.map (·.2.1))) entry.2.1 ++ "= " ++ entry.2.2

theorem Digest.constantLines_eq (d : Digest) :
    d.constantLines = "const (" :: d.constants.map d.constantLine ++ [")"] := by
  unfold Digest.constantLines groupLines
  have hrow : entryRow ("= " ++ ·) = Source.rowOf [(·.1), (·.2.1)] fun entry => "= " ++ entry.2.2 := rfl
  rw [hrow, Source.align_rows _ (by simp), List.map_map]
  simp [Function.comp_def, Digest.constantLine, String.append_assoc]

/-- A file whose enumerations are not replaced has the group of constants of the stock file. -/
theorem render_eq_constantLines {template : Template} {model : Model}
    (htemplate : template.snippet .enums = none) (hne : model.enums ≠ []) : ∃ before after,
      render template model = before ++ unlines model.digest.constantLines ++ after := by
  have haliases : model.digest.aliases ≠ [] := by simpa [Model.digest] using hne
  have henums : Section.enums.text template model = unlines model.digest.enumLines := by
    rw [← text_stock_enums]
    apply Section.text_congr
    intro block hblock
    obtain rfl := List.mem_singleton.mp hblock
    exact htemplate
  obtain ⟨earlier, later, hall, -⟩ := Section.enums.exists_split
  refine ⟨Section.texts template model earlier ++ unlines ("" :: model.digest.aliasLines ++ [""]),
    Section.texts template model later, ?_⟩
  rw [render_eq_join, hall]
  simp [Section.texts, henums, Digest.enumLines, haliases, String.append_assoc]

/-- Every value of an enumeration has a line among the constants. -/
theorem exists_constantLine {model : Model} {e : Enumeration} {value : Atom}
    (he : e ∈ model.enums) (hlength : e.constantNames.length = e.values.length)
    (hvalue : value ∈ e.values) : ∃ name, (name, value) ∈ e.constants ∧ ∃ earlier later,
      model.digest.constantLines = "const (" ::
        (earlier ++ model.digest.constantLine (name, e.name, literal value) :: later) ++ [")"] := by
  rw [← (Enumeration.constants_unzip hlength).2] at hvalue
  obtain ⟨⟨name, value⟩, hconstant, rfl⟩ := List.mem_map.mp hvalue
  have hentry : (name, e.name, literal value) ∈ model.digest.constants :=
    List.mem_flatMap.mpr ⟨e, he, List.mem_map.mpr ⟨(name, value), hconstant, rfl⟩⟩
  obtain ⟨earlier, later, hsplit⟩ := List.append_of_mem hentry
  refine ⟨name, hconstant, earlier.map model.digest.constantLine,
    later.map model.digest.constantLine, ?_⟩
  have hlines := congrArg (List.map model.digest.constantLine) hsplit
  rw [Digest.constantLines_eq, hlines, List.map_append, List.map_cons]

/-! ### The literals of a job -/

/-- Each value of an enumeration has a line in the group of constants of its file; the literal in the
line stands for the value exactly if the value is verbatim, as integers and truth values always are. -/
theorem literals_of_models {job : Job} {models : List Model} (hmodels : job.models = .ok models)
    (htemplate : job.template.snippet .enums = none) :
    ∀ model ∈ models, ∀ e ∈ model.enums, ∀ value ∈ e.values, ∃ name, (name, value) ∈ e.constants ∧
      (∃ before earlier later after, (job.file model).content = before ++
        unlines ("const (" :: (earlier ++
          model.digest.constantLine (name, e.name, literal value) :: later) ++ [")"]) ++ after) ∧
      ∀ strict constant, constantOf? value = some constant →
        (constant? strict (literal value).toList = some constant ↔ IsVerbatim strict value) := by
  obtain ⟨entries, htables, hmap⟩ := bind_eq_ok_iff.mp hmodels
  intro model hmodel e he value hvalue
  obtain ⟨entry, -, hresult⟩ := exists_of_forall₂_right (mapM_eq_ok_iff.mp hmap) hmodel
  have hcontents := Mapper.contents_of_model (mapError_eq_ok_iff.mp hresult)
  obtain ⟨column, -, henum⟩ := exists_of_forall₂_right hcontents.enums he
  obtain ⟨name, hconstant, earlier, later, hlines⟩ := exists_constantLine he henum.length hvalue
  obtain ⟨before, after, hrender⟩ :=
    render_eq_constantLines htemplate (List.ne_nil_of_mem he)
  refine ⟨name, hconstant, ⟨before, earlier, later, after, ?_⟩, fun _ _ => constant?_literal_iff⟩
  rw [← hlines]
  exact hrender

/-- A job for an enumeration of integers and one of strings, where a string has a backslash. -/
def marked : Job where
  database := {
    name := "s"
    version := "1.0.0"
    tables := .ofList [("T", .ofColumns [
      ("level", Sample.columnOf (.scalar
        ((BaseType.plain .integer).withAllowed [.integer 1, .integer (-2)]))),
      ("mode", Sample.columnOf (.scalar (Sample.oneOf ["on", "a\\tb"])))])] }
  package := "p"

theorem marked_models : ∃ models, marked.models = .ok models ∧
    (models.flatMap (·.enums)).map (·.values) =
      [[.integer 1, .integer (-2)], [.string "on", .string "a\\tb"]] := by
  have hmodels : (marked.models.toOption.map fun models =>
      (models.flatMap (·.enums)).map (·.values)) =
        some [[.integer 1, .integer (-2)], [.string "on", .string "a\\tb"]] := by decide +kernel
  obtain ⟨models, hoption, hvalues⟩ := Option.map_eq_some_iff.mp hmodels
  exact ⟨models, toOption_eq_some_iff.mp hoption, hvalues⟩

theorem literals_of_marked : ∃ models, marked.models = .ok models ∧
    marked.template.snippet .enums = none ∧
    ∀ model ∈ models, ∀ e ∈ model.enums, ∀ value ∈ e.values, ∃ name, (name, value) ∈ e.constants ∧
      (∃ before earlier later after, (marked.file model).content = before ++
        unlines ("const (" :: (earlier ++
          model.digest.constantLine (name, e.name, literal value) :: later) ++ [")"]) ++ after) ∧
      ∀ strict constant, constantOf? value = some constant →
        (constant? strict (literal value).toList = some constant ↔ IsVerbatim strict value) := by
  obtain ⟨models, hmodels, -⟩ := marked_models
  exact ⟨models, hmodels, rfl, literals_of_models hmodels rfl⟩

/-- A backslash and a `t` in a string become a tab in Go. -/
theorem literal_of_backslash : ∃ source models model e, Database.parse source = .ok marked.database ∧
    marked.models = .ok models ∧ model ∈ models ∧ e ∈ model.enums ∧ .string "a\\tb" ∈ e.values ∧
    constantOf? (.string "a\\tb") = some (.text [97, 92, 116, 98]) ∧
    ∀ strict, constant? strict (literal (.string "a\\tb")).toList = some (.text [97, 9, 98]) := by
  have hread : (Database.parse ("\x7b\"name\":\"s\",\"version\":\"1.0.0\",\"tables\":" ++
      "\x7b\"T\":\x7b\"columns\":\x7b\"level\":\x7b\"type\":\x7b\"key\":\x7b\"type\":\"integer\"," ++
      "\"enum\":[\"set\",[1,-2]]\x7d\x7d\x7d,\"mode\":\x7b\"type\":\x7b\"key\":\x7b\"type\":\"string\"," ++
      "\"enum\":[\"set\",[\"on\",\"a\\\\tb\"]]\x7d\x7d\x7d\x7d\x7d\x7d\x7d")).toOption =
        some marked.database := by decide +kernel
  obtain ⟨models, hmodels, hvalues⟩ := marked_models
  have hmem : [.string "on", .string "a\\tb"] ∈ (models.flatMap (·.enums)).map (·.values) := by
    rw [hvalues]
    exact List.mem_cons_of_mem _ List.mem_cons_self
  obtain ⟨e, he, heq⟩ := List.mem_map.mp hmem
  obtain ⟨model, hmodel, he⟩ := List.mem_flatMap.mp he
  refine ⟨_, models, model, e, toOption_eq_some_iff.mp hread, hmodels, hmodel, he, ?_, rfl, ?_⟩
  · rw [heq]
    exact List.mem_cons_of_mem _ List.mem_cons_self
  · decide

end OvsdbModels.Go
