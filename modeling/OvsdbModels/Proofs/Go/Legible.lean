/-
  OvsdbModels/Proofs/Go/Legible.lean
  ==================================
  **Models that can be read back from their files.**

  If a table and its columns are named by words and neither the package nor a text among the values
  has a line feed, then the digest of the model is legible: names are made of letters and digits, types
  of names and brackets, and a literal other than a text of digits and a few signs.  The stock file
  then determines the digest (`render_stock_eq_iff`).
-/
import OvsdbModels.Proofs.Go.Digest
import OvsdbModels.Proofs.Go.Identifiers
import OvsdbModels.Proofs.Model.Contents

namespace OvsdbModels

open Attempt
open Source (IsCell isVisible_of_class)
open Text (HasForm IsLetteredIdentifier)

namespace Go

/-! ### Names and types -/

theorem isCell_of_isExportedWord {name : String} (h : IsExportedWord name) : IsCell name := by
  apply HasForm.imp _ _ h
  · intro c hc
    exact isVisible_of_class (by decide) (by decide) hc
  · intro c hc
    exact isVisible_of_class (by decide) (by decide) hc

theorem isCell_constantName (naming : Naming) {enumName : String} (h : IsCell enumName)
    (value : Atom) : IsCell (constantName naming enumName value) := by
  rw [IsCell, constantName, String.toList_append, String.toList_ofList]
  apply HasForm.append h
  intro c hc
  exact isVisible_of_class (by decide) (by decide) (List.mem_filter.mp hc).2

theorem isCell_atomic {atomic : AtomicType} {type : String} (h : target.atomic atomic = some type) :
    IsCell type := by
  cases atomic with
  | unsupported name => exact nomatch h
  | integer =>
    obtain rfl := Option.some.inj h
    decide
  | real =>
    obtain rfl := Option.some.inj h
    decide
  | boolean =>
    obtain rfl := Option.some.inj h
    decide
  | string =>
    obtain rfl := Option.some.inj h
    decide
  | uuid =>
    obtain rfl := Option.some.inj h
    decide

theorem isCell_shape {shape : Shape} {type : String} (h : shape.text? target = some type)
    (hnames : ∀ name ∈ shape.enumNames, IsCell name) : IsCell type := by
  induction shape generalizing type with
  | atomic atomic => exact isCell_atomic h
  | enumeration name =>
    obtain rfl := Option.some.inj h
    exact hnames name List.mem_cons_self
  | sequence element ih =>
    obtain ⟨text, htext, rfl⟩ := Option.map_eq_some_iff.mp h
    have hopen : IsCell "[]" := by decide
    exact hopen.append (ih htext hnames)
  | mapping key value ihkey ihvalue =>
    obtain ⟨hkeys, hvalues⟩ := List.forall_mem_append.mp hnames
    unfold Shape.text? at h
    split at h
    · rename_i keyText valueText hkey hvalue
      obtain rfl := Option.some.inj h
      have hopen : IsCell "map[" := by decide
      have hclose : IsCell "]" := by decide
      exact ((hopen.append (ihkey hkey hkeys)).append hclose).append (ihvalue hvalue hvalues)
    · exact nomatch h

/-! ### Literals -/

/-- Whether an atom stays on its line if it is a text. -/
def IsLineAtom : Atom → Prop
  | .string s => '\n' ∉ s.toList
  | _ => True

instance : DecidablePred IsLineAtom
  | .string s => inferInstanceAs (Decidable ('\n' ∉ s.toList))
  | .integer _ => isTrue trivial
  | .real _ => isTrue trivial
  | .boolean _ => isTrue trivial

theorem ne_newline_of_isDigit {c : Char} (h : c.isDigit = true) : c ≠ '\n' := by
  rintro rfl
  exact absurd h (by decide)

theorem newline_notMem_signed {body : List Char} (h : ∀ c ∈ body, c ≠ '\n') (negative : Bool) :
    '\n' ∉ (Decimal.signed negative body).toList := by
  have hall := Decimal.forall_mem_signed (p := fun c => c ≠ '\n') (by decide) h negative
  intro hmem
  exact hall _ hmem rfl

theorem newline_notMem_fixed (x : Float) : '\n' ∉ (Decimal.fixed 6 x).toList := by
  unfold Decimal.fixed
  cases Decimal.Binary.ofFloat x with
  | notANumber => decide
  | infinite negative => exact newline_notMem_signed (by simp) negative
  | finite negative m q =>
    obtain ⟨whole, fraction, hfixed, hwhole, hfraction, -⟩ := Decimal.exists_fixedDigits 6
      (Decimal.roundDiv (m * Nat.pow 2 q.toNat * Nat.pow 10 6) (Nat.pow 2 (-q).toNat))
    simp only [hfixed]
    apply newline_notMem_signed
    intro c hc
    rcases List.mem_append.mp hc with hdigit | hrest
    · exact ne_newline_of_isDigit (hwhole.2 c hdigit)
    · rcases List.mem_cons.mp hrest with rfl | hdigit
      · decide
      · exact ne_newline_of_isDigit (hfraction c hdigit)

theorem newline_notMem_literal {value : Atom} (h : IsLineAtom value) :
    '\n' ∉ (literal value).toList := by
  cases value with
  | integer n =>
    rw [literal, Decimal.toString_eq_signed]
    apply newline_notMem_signed
    intro c hc
    exact ne_newline_of_isDigit ((Decimal.isDigits_toDigits _).2 c hc)
  | real x => exact newline_notMem_fixed x
  | boolean b =>
    cases b with
    | true => decide
    | false => decide
  | string s =>
    have htext : '\n' ∉ s.toList := h
    simp [literal, Target.enquote, htext]

/-! ### Plain tables -/

/-- A table that is named by words and whose values stay on their lines, like the package that it is
generated for, which may be written in any script. -/
structure IsPlain (package name : String) (table : Table) : Prop where
  package : '\n' ∉ package.toList
  name : IsLetteredIdentifier name
  columns : ∀ column ∈ table.columns.names, IsLetteredIdentifier column
  values : ∀ entry ∈ table.columns.entries, ∀ values ∈ entry.2.key.allowed,
    ∀ value ∈ values, IsLineAtom value

theorem newline_notMem_of_isWordChar {s : String} (h : ∀ c ∈ s.toList, Text.isWordChar c = true) :
    '\n' ∉ s.toList := by
  intro hmem
  exact absurd (h _ hmem) (by decide)

section Models

variable {package name : String} {table : Table} {model : Model}

theorem IsPlain.isCell_enumAlias (h : IsPlain package name table) {entry : String × Column}
    (hentry : entry ∈ table.columns.entries) : IsCell (mapper.naming.enumAlias name entry.1) := by
  apply isCell_of_isExportedWord
  exact exported_enumAlias _ h.name (h.columns entry.1 (List.mem_map_of_mem hentry))

theorem IsPlain.isCell_field (h : IsPlain package name table) {entry : String × Column}
    {field : Field} (hentry : entry ∈ table.columns.entries)
    (hfield : mapper.IsFieldOf name entry field) :
    IsCell field.name ∧ IsCell field.type ∧ '\n' ∉ field.tag.toList := by
  have hcolumn := h.columns entry.1 (List.mem_map_of_mem hentry)
  refine ⟨?_, ?_, ?_⟩
  · rw [hfield.name]
    apply isCell_of_isExportedWord
    exact Naming.normalize_hasForm hcolumn fun hempty => absurd hempty (by decide)
  · obtain ⟨hmapped, htype⟩ := hfield.type_eq
    have hshape := Mapper.shape_text_eq_resolved hmapped name entry.1
    rw [htype]
    apply isCell_shape hshape
    intro enumName hmem
    obtain ⟨-, rfl⟩ := Column.eq_of_mem_enumNames_shape hmem
    exact h.isCell_enumAlias hentry
  · rw [hfield.tag]
    simpa using newline_notMem_of_isWordChar hcolumn.isWordChar

/-- The digest of a plain table's model can be read back. -/
theorem legible_of_model (h : IsPlain package name table)
    (hmodel : mapper.model package name table = .ok model) : model.digest.Legible := by
  obtain ⟨-, identityType, hidentity, -, -, hparts⟩ := Mapper.model_eq_ok_iff.mp hmodel
  have hcontents := Mapper.contents_of_model hmodel
  have henum : ∀ e ∈ model.enums, ∃ entry ∈ table.columns.entries, mapper.IsEnumOf name entry e := by
    intro e he
    obtain ⟨entry, hentry, henum⟩ := exists_of_forall₂_right hcontents.enums he
    exact ⟨entry, List.mem_of_mem_filter hentry, henum⟩
  have halias : ∀ e ∈ model.enums, IsCell e.name := by
    intro e he
    obtain ⟨entry, hentry, henum⟩ := henum e he
    rw [henum.name]
    exact h.isCell_enumAlias hentry
  constructor
  case table =>
    rw [hparts]
    exact newline_notMem_of_isWordChar h.name.isWordChar
  case package =>
    rw [hparts]
    exact h.package
  case structName =>
    rw [hparts]
    exact (isCell_of_isExportedWord (Naming.typeName_hasForm h.name)).isFlush.newline_notMem
  case fields =>
    intro row hrow
    obtain ⟨field, hfield, rfl⟩ := List.mem_map.mp hrow
    obtain ⟨identity, columnFields, hfields, -, hname, htag, htype, hcolumns⟩ := hcontents.fields
    rw [hfields] at hfield
    rcases List.mem_cons.mp hfield with rfl | hcolumn
    · have huuid : IsCell field.name := by
        rw [hname]
        decide
      have hline : '\n' ∉ field.tag.toList := by
        rw [htag]
        decide
      exact ⟨huuid, isCell_atomic htype, hline⟩
    · obtain ⟨entry, hentry, hfield⟩ := exists_of_forall₂_right hcolumns hcolumn
      exact h.isCell_field hentry hfield
  case aliases =>
    intro pair hpair
    obtain ⟨e, he, rfl⟩ := List.mem_map.mp hpair
    obtain ⟨entry, -, henum⟩ := henum e he
    exact ⟨halias e he, (isCell_atomic henum.type_eq.2).isFlush.newline_notMem⟩
  case constants =>
    intro row hrow
    obtain ⟨e, he, hrow⟩ := List.mem_flatMap.mp hrow
    obtain ⟨⟨constant, value⟩, hpair, rfl⟩ := List.mem_map.mp hrow
    obtain ⟨entry, hentry, henum⟩ := henum e he
    obtain ⟨hconstant, hvalue⟩ := List.of_mem_zip hpair
    obtain ⟨named, rfl⟩ := henum.exists_of_mem_constantNames hconstant
    have hline := h.values entry hentry e.values henum.values value hvalue
    exact ⟨isCell_constantName _ (halias e he) named, halias e he, newline_notMem_literal hline⟩
  case enums =>
    intro hnone
    have hempty : model.enums = [] := by simpa [Model.digest] using hnone
    simp [Model.digest, hempty]

end Models

/-! ### Two files -/

/-- The stock files of two models of plain tables are equal exactly if they have the same tables,
packages and record types, and the same fields, aliases and constants in the same order. -/
theorem render_stock_eq_iff {package package' name name' : String} {table table' : Table}
    {model model' : Model} (h : IsPlain package name table) (h' : IsPlain package' name' table')
    (hmodel : mapper.model package name table = .ok model)
    (hmodel' : mapper.model package' name' table' = .ok model') :
    render .stock model = render .stock model' ↔ model.digest = model'.digest := by
  rw [render_stock, render_stock]
  constructor
  · intro heq
    exact Digest.eq_of_unlines_eq (legible_of_model h hmodel) (legible_of_model h' hmodel') heq
  · intro heq
    rw [heq]

/-- A table with two enumerations, one of them without values. -/
def peers (atomic : AtomicType) : Table := .ofColumns
  [("kind", Sample.columnOf (.scalar (Sample.oneOf ["a b", "= (\"c\")"]))),
    ("peer", Sample.columnOf (.scalar ((BaseType.plain atomic).withAllowed [])))]

def peersModel (atomic : AtomicType) : Model where
  table := "Peers"
  package := "größe"
  structName := "Peers"
  fields := [.identity "string", ⟨"kind", "Kind", "PeersKind"⟩, ⟨"peer", "Peer", "PeersPeer"⟩]
  enums := [
    { name := "PeersKind", atomic := .string, type := "string"
      values := [.string "a b", .string "= (\"c\")"], constantNames := ["PeersKindAb", "PeersKindc"] },
    { name := "PeersPeer", atomic, type := "string", values := [], constantNames := [] }]

/-- A file does not tell strings from row identities, but all that it shows is the same. -/
theorem render_stock_eq_peers :
    IsPlain "größe" "Peers" (peers .string) ∧ IsPlain "größe" "Peers" (peers .uuid) ∧
    mapper.model "größe" "Peers" (peers .string) = .ok (peersModel .string) ∧
    mapper.model "größe" "Peers" (peers .uuid) = .ok (peersModel .uuid) ∧
    peersModel .string ≠ peersModel .uuid ∧
    render .stock (peersModel .string) = render .stock (peersModel .uuid) ∧
    (peersModel .string).digest = (peersModel .uuid).digest := by
  have hplain : IsPlain "größe" "Peers" (peers .string) := by
    constructor <;> decide
  have hplain' : IsPlain "größe" "Peers" (peers .uuid) := by
    constructor <;> decide
  have hmodel : mapper.model "größe" "Peers" (peers .string) = .ok (peersModel .string) := by
    decide +kernel
  have hmodel' : mapper.model "größe" "Peers" (peers .uuid) = .ok (peersModel .uuid) := by
    decide +kernel
  have hrender : render .stock (peersModel .string) = render .stock (peersModel .uuid) := by
    decide +kernel
  exact ⟨hplain, hplain', hmodel, hmodel', by decide, hrender,
    (render_stock_eq_iff hplain hplain' hmodel hmodel').mp hrender⟩

end Go

end OvsdbModels
