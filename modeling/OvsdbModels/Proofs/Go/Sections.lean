/-
  OvsdbModels/Proofs/Go/Sections.lean
  ===================================
  **The sections of a generated file.**

  A rendering is made of seven sections in a fixed order, and each has a text of its own, with the empty
  line that sets it off (`Section.text`).  Since the writer is back at its first level behind every
  fragment, no section depends on the snippets of another.
-/
import OvsdbModels.Go.Render
import OvsdbModels.Proofs.Go.Placeholders
import OvsdbModels.Proofs.Source.Align
import OvsdbModels.Proofs.Source.Writing

namespace OvsdbModels.Go

open Source (Fragment Writer lineText marginText_zero cellText widthOf)

/-! ### Texts of sections -/

inductive Section where
  | header
  | packageClause
  | preStructDefinitions
  | enums
  | structComment
  | declaration
  | postStructDefinitions
  deriving DecidableEq, Repr

/-- The text of a block at the left margin. -/
def Template.blockText (template : Template) (model : Model) (block : Block) : String :=
  Fragment.texts "\t" 0 (template.fragments model block)

/-- The text of a block behind an empty line; a block without lines has none. -/
def Template.apart (template : Template) (model : Model) (block : Block) : String :=
  if (template.fragments model block).isEmpty then "" else "\n" ++ template.blockText model block

namespace Section

/-- All sections, in the order in which a file shows them. -/
def all : List Section :=
  [header, packageClause, preStructDefinitions, enums, structComment, declaration,
    postStructDefinitions]

/-- The blocks that a section shows. -/
def blocks : Section → List Block
  | header => [.header]
  | packageClause => []
  | preStructDefinitions => [.preStructDefinitions]
  | enums => [.enums]
  | structComment => [.structComment]
  | declaration => [.extraTags, .extraFields]
  | postStructDefinitions => [.postStructDefinitions]

/-- The section that shows a block. -/
def ofBlock : Block → Section
  | .header => header
  | .preStructDefinitions => preStructDefinitions
  | .structComment => structComment
  | .enums => enums
  | .extraTags => declaration
  | .extraFields => declaration
  | .postStructDefinitions => postStructDefinitions

/-- The text of a section, with the empty line that sets it off. -/
def text (template : Template) (model : Model) : Section → String
  | header =>
    if (template.fragments model .header).isEmpty then ""
    else template.blockText model .header ++ "\n"
  | packageClause => "package " ++ model.package ++ "\n"
  | preStructDefinitions => template.apart model .preStructDefinitions
  | enums => template.apart model .enums
  | structComment => "\n" ++ template.blockText model .structComment
  | declaration => (structDeclaration template model).text "\t" 0
  | postStructDefinitions => template.apart model .postStructDefinitions

end Section

/-! ### The whole file -/

/-- A writer at the left margin, with what it has written. -/
def written (text : String) : Writer := { text }

theorem written_emitAll (text : String) (fragments : List Fragment) :
    (written text).emitAll fragments = written (text ++ Fragment.texts "\t" 0 fragments) := by
  rw [Writer.emitAll_eq]
  rfl

theorem written_pushBlank (text : String) : (written text).pushBlank = written (text ++ "\n") := rfl

theorem writeSection_written (template : Template) (model : Model) (block : Block) (text : String) :
    writeSection (written text) (template.fragments model block) =
      written (text ++ template.apart model block) := by
  unfold writeSection Template.apart Template.blockText
  split
  · simp
  · rw [written_pushBlank, written_emitAll, String.append_assoc]

theorem writeHeader_written (template : Template) (model : Model) :
    writeHeader (written "") (template.fragments model .header) =
      written (Section.header.text template model) := by
  unfold writeHeader Section.text Template.blockText
  split
  · rfl
  · rw [written_emitAll, written_pushBlank, String.empty_append]

theorem render_eq_join (template : Template) (model : Model) :
    render template model =
      String.join (Section.all.map fun s => s.text template model) := by
  have hpackage (text : String) : (written text).pushLine ("package " ++ model.package) =
      written (text ++ Section.packageClause.text template model) := by
    rw [Writer.pushLine_eq]
    simp [Section.text, lineText, written, Writer.put, String.append_assoc]
  have hstruct (text : String) : (written text).emit (structDeclaration template model) =
      written (text ++ Section.declaration.text template model) := by
    rw [Writer.emit_eq]
    rfl
  unfold render
  have hstart : ({} : Writer) = written "" := rfl
  simp only [hstart, writeHeader_written, hpackage, writeSection_written, written_pushBlank, written_emitAll,
    hstruct]
  simp [written, Section.all, Section.text, Template.blockText, String.append_assoc]

/-! ### The record type -/

/-- The line of a field up to what follows its tag: the name and the type, each as wide as the widest of
the record, and the tag behind its opening quote. -/
def fieldHead (model : Model) (field : Field) : String :=
  cellText (widthOf (model.fields.map (·.name))) field.name ++
    cellText (widthOf (model.fields.map (·.type))) field.type ++ "`" ++ field.tag

/-- The line of a field. -/
def fieldLine (template : Template) (model : Model) (field : Field) : String :=
  "\t" ++ fieldHead model field ++ template.extraTag model field ++ "`\n"

theorem align_fieldRows (template : Template) (model : Model) :
    Source.align (model.fields.map (fieldRow template model)) = model.fields.map fun field =>
      fieldHead model field ++ template.extraTag model field ++ "`" := by
  have hrow : fieldRow template model = Source.rowOf [(·.name), (·.type)] fun field =>
    "`" ++ field.tag ++ template.extraTag model field ++ "`" := rfl
  rw [hrow, Source.align_rows]
  · simp [fieldHead, String.append_assoc]
  · simp

theorem text_declaration (template : Template) (model : Model) :
    Section.declaration.text template model =
      "type " ++ model.structName ++ " struct \x7b\n" ++
        String.join (model.fields.map (fieldLine template model)) ++
        Fragment.texts "\t" 1 (template.fragments model .extraFields) ++ "\x7d\n" := by
  have hfields : Fragment.texts "\t" 1 ((Source.align
      (model.fields.map (fieldRow template model))).map .line) =
        String.join (model.fields.map (fieldLine template model)) := by
    rw [Fragment.texts_lines, align_fieldRows, List.map_map]
    congr 1
    apply List.map_congr_left
    intro field _
    rw [Function.comp_apply, Source.lineText_of_ne]
    · simp [fieldLine, String.append_assoc]
    · simp
  have hopen : " struct \x7b\n" = " struct \x7b" ++ "\n" := rfl
  have hclose : "\x7d\n" = "\x7d" ++ "\n" := rfl
  unfold Section.text structDeclaration Fragment.text
  rw [Fragment.texts_append, hfields]
  simp only [marginText_zero, hopen, hclose, Source.lineText_empty, String.append_assoc,
    Nat.zero_add]

/-! ### Snippets and sections -/

/-- Two templates that have the same snippets but for one block. -/
def Template.AgreeOff (block : Block) (template template' : Template) : Prop :=
  ∀ other, other ≠ block → template.snippet other = template'.snippet other

theorem agreeOff_replace (template : Template) (block : Block) (text : String) :
    Template.AgreeOff block template (template.replace block text) := by
  intro other hother
  simp [Template.replace, hother]

theorem Template.fragments_congr {template template' : Template} {block : Block}
    (h : template.snippet block = template'.snippet block) (model : Model) :
    template.fragments model block = template'.fragments model block := by
  simp [fragments, h]

/-- A section's text depends on the snippets of its own blocks alone. -/
theorem Section.text_congr {s : Section} {template template' : Template}
    (h : ∀ block ∈ s.blocks, template.snippet block = template'.snippet block) (model : Model) :
    s.text template model = s.text template' model := by
  cases s with
  | packageClause => rfl
  | declaration =>
    have htags := h .extraTags (by simp [blocks])
    have hfields := Template.fragments_congr (h .extraFields (by simp [blocks])) model
    have hline : fieldLine template model = fieldLine template' model := by
      funext field
      simp [fieldLine, Template.extraTag, htags]
    rw [text_declaration, text_declaration, hline, hfields]
  | header =>
    have hfragments := Template.fragments_congr (h .header (by simp [blocks])) model
    simp [text, Template.blockText, hfragments]
  | structComment =>
    have hfragments := Template.fragments_congr (h .structComment (by simp [blocks])) model
    simp [text, Template.blockText, hfragments]
  | preStructDefinitions =>
    have hfragments := Template.fragments_congr (h .preStructDefinitions (by simp [blocks])) model
    simp [text, Template.apart, Template.blockText, hfragments]
  | enums =>
    have hfragments := Template.fragments_congr (h .enums (by simp [blocks])) model
    simp [text, Template.apart, Template.blockText, hfragments]
  | postStructDefinitions =>
    have hfragments := Template.fragments_congr (h .postStructDefinitions (by simp [blocks])) model
    simp [text, Template.apart, Template.blockText, hfragments]

/-- The sections before and behind one section. -/
theorem Section.exists_split (s : Section) : ∃ earlier later, all = earlier ++ s :: later ∧
    ∀ other ∈ earlier ++ later, other ≠ s := by
  cases s with
  | header => exact ⟨[], _, rfl, by decide⟩
  | packageClause => exact ⟨[.header], _, rfl, by decide⟩
  | preStructDefinitions => exact ⟨[.header, .packageClause], _, rfl, by decide⟩
  | enums => exact ⟨[.header, .packageClause, .preStructDefinitions], _, rfl, by decide⟩
  | structComment =>
    exact ⟨[.header, .packageClause, .preStructDefinitions, .enums], _, rfl, by decide⟩
  | declaration =>
    exact ⟨[.header, .packageClause, .preStructDefinitions, .enums, .structComment], _, rfl,
      by decide⟩
  | postStructDefinitions =>
    exact ⟨[.header, .packageClause, .preStructDefinitions, .enums, .structComment, .declaration], _,
      rfl, by decide⟩

theorem Section.eq_ofBlock {s : Section} {block : Block} (h : block ∈ s.blocks) :
    s = ofBlock block := by
  cases s <;> cases block <;> simp_all [blocks, ofBlock]

/-- The texts of sections, one after another. -/
def Section.texts (template : Template) (model : Model) (sections : List Section) : String :=
  String.join (sections.map fun s => s.text template model)

/-- Templates that differ in one block give the same text before and behind the block's section. -/
theorem render_of_agreeOff {block : Block} {template template' : Template}
    (h : Template.AgreeOff block template template') (model : Model) :
    ∃ earlier later, Section.all = earlier ++ Section.ofBlock block :: later ∧
      ∃ before after, before = Section.texts template model earlier ∧
        after = Section.texts template model later ∧
        render template model =
          before ++ (Section.ofBlock block).text template model ++ after ∧
        render template' model =
          before ++ (Section.ofBlock block).text template' model ++ after := by
  obtain ⟨earlier, later, hall, hother⟩ := (Section.ofBlock block).exists_split
  have hsame : ∀ other ∈ earlier ++ later,
      other.text template' model = other.text template model := by
    intro other hmem
    apply Section.text_congr
    intro block' hblock'
    apply (h block' _).symm
    rintro rfl
    exact hother other hmem (Section.eq_ofBlock hblock')
  refine ⟨earlier, later, hall, _, _, rfl, rfl, ?_, ?_⟩
  · rw [render_eq_join, hall]
    simp [Section.texts, String.append_assoc]
  · have hearlier : earlier.map (fun s => s.text template' model) =
        earlier.map fun s => s.text template model :=
      List.map_congr_left fun other hmem => hsame other (List.mem_append_left _ hmem)
    have hlater : later.map (fun s => s.text template' model) =
        later.map fun s => s.text template model :=
      List.map_congr_left fun other hmem => hsame other (List.mem_append_right _ hmem)
    rw [render_eq_join, hall]
    simp [Section.texts, hearlier, hlater, String.append_assoc]

/-! ### Snippets within the record type -/

/-- A snippet for tags is written into the line of every field, in front of the closing quote. -/
theorem render_replace_extraTags {template : Template} (text : String) (model : Model)
    (h : template.snippet .extraTags = none) : ∃ before after,
      render template model = before ++
        String.join (model.fields.map fun field => "\t" ++ fieldHead model field ++ "`\n") ++ after ∧
      render (template.replace .extraTags text) model = before ++
        String.join (model.fields.map fun field =>
          "\t" ++ fieldHead model field ++ filled (modelValues model ++ fieldValues field) text ++
            "`\n") ++ after := by
  obtain ⟨earlier, later, -, before, after, -, -, hrender, hrender'⟩ :=
    render_of_agreeOff (agreeOff_replace template .extraTags text) model
  have hfields : (template.replace .extraTags text).fragments model .extraFields =
      template.fragments model .extraFields := Template.fragments_congr rfl model
  have hline : fieldLine template model = fun field => "\t" ++ fieldHead model field ++ "`\n" := by
    funext field
    simp [fieldLine, Template.extraTag, h, String.append_assoc]
  have hline' : fieldLine (template.replace .extraTags text) model = fun field =>
      "\t" ++ fieldHead model field ++ filled (modelValues model ++ fieldValues field) text ++
        "`\n" := by
    funext field
    simp [fieldLine, Template.extraTag, Template.replace, fillField_eq]
  refine ⟨before ++ ("type " ++ model.structName ++ " struct \x7b\n"),
    Fragment.texts "\t" 1 (template.fragments model .extraFields) ++ "\x7d\n" ++ after, ?_, ?_⟩
  · rw [hrender, Section.ofBlock, text_declaration, hline]
    simp only [String.append_assoc]
  · rw [hrender', Section.ofBlock, text_declaration, hline', hfields]
    simp only [String.append_assoc]

/-- The lines of a snippet for fields stand between the line of the last field and the closing brace. -/
theorem render_replace_extraFields {template : Template} (text : String) (model : Model)
    (h : template.snippet .extraFields = none) : ∃ before after,
      render template model = before ++
        String.join (model.fields.map (fieldLine template model)) ++ "\x7d\n" ++ after ∧
      render (template.replace .extraFields text) model = before ++
        String.join (model.fields.map (fieldLine template model)) ++
        String.join ((Source.textLines (filled (modelValues model) text)).map (lineText "\t")) ++
        "\x7d\n" ++ after := by
  obtain ⟨earlier, later, -, before, after, -, -, hrender, hrender'⟩ :=
    render_of_agreeOff (agreeOff_replace template .extraFields text) model
  have hline : fieldLine (template.replace .extraFields text) model = fieldLine template model := rfl
  have hfields : template.fragments model .extraFields = [] := by
    simp [Template.fragments, h, stockBlock]
  have hfields' : (template.replace .extraFields text).fragments model .extraFields =
      (Source.textLines (filled (modelValues model) text)).map .line := by
    simp [Template.fragments, Template.replace, Fragment.lines, fillModel_eq]
  refine ⟨before ++ ("type " ++ model.structName ++ " struct \x7b\n"), after, ?_, ?_⟩
  · rw [hrender, Section.ofBlock, text_declaration, hfields, Fragment.texts]
    simp only [String.append_assoc, String.append_empty]
  · rw [hrender', Section.ofBlock, text_declaration, hline, hfields', Fragment.texts_lines]
    simp only [String.append_assoc]
    rfl

/-! ### All snippets -/

/-- A file is the concatenation of its sections, and a section depends on its own snippets alone, so a
snippet changes nothing outside its section.  A snippet for tags changes nothing in its section but
what stands in front of the closing quotes, and a snippet for fields only adds its lines. -/
theorem render_sections (model : Model) :
    (∀ template, render template model =
      String.join (Section.all.map fun s => s.text template model)) ∧
    (∀ (s : Section) (template template' : Template),
      (∀ block ∈ s.blocks, template.snippet block = template'.snippet block) →
        s.text template model = s.text template' model) ∧
    (∀ (block : Block) (template template' : Template), Template.AgreeOff block template template' →
      ∃ earlier later, Section.all = earlier ++ Section.ofBlock block :: later ∧
        ∃ before after, before = Section.texts template model earlier ∧
          after = Section.texts template model later ∧
          render template model =
            before ++ (Section.ofBlock block).text template model ++ after ∧
          render template' model =
            before ++ (Section.ofBlock block).text template' model ++ after) ∧
    (∀ (template : Template) (text : String), template.snippet .extraTags = none →
      ∃ before after,
        render template model = before ++ String.join (model.fields.map fun field =>
          "\t" ++ fieldHead model field ++ "`\n") ++ after ∧
        render (template.replace .extraTags text) model = before ++
          String.join (model.fields.map fun field =>
            "\t" ++ fieldHead model field ++ filled (modelValues model ++ fieldValues field) text ++
              "`\n") ++ after) ∧
    (∀ (template : Template) (text : String), template.snippet .extraFields = none →
      ∃ before after,
        render template model = before ++
          String.join (model.fields.map (fieldLine template model)) ++ "\x7d\n" ++ after ∧
        render (template.replace .extraFields text) model = before ++
          String.join (model.fields.map (fieldLine template model)) ++
          String.join ((Source.textLines (filled (modelValues model) text)).map (lineText "\t")) ++
          "\x7d\n" ++ after) := by
  refine ⟨?sections, ?own, ?apart, ?tags, ?fields⟩
  case sections => exact fun template => render_eq_join template model
  case own => exact fun s template template' h => Section.text_congr h model
  case apart => exact fun block template template' h => render_of_agreeOff h model
  case tags => exact fun template text h => render_replace_extraTags text model h
  case fields => exact fun template text h => render_replace_extraFields text model h

/-- A model with two fields whose names and types differ in length. -/
def twoFields : Model where
  table := "Flow_Table"
  package := "p"
  structName := "FlowTable"
  fields := [.identity "string", ⟨"tag", "Tag", "int"⟩]
  enums := []

/-- A snippet for tags that names the record type and every part of the field. -/
def tagSnippet : String := " go:\"\x7bStructName\x7d.\x7bName\x7d \x7bType\x7d\" db:\"\x7bColumn\x7d\""

/-- A snippet of three lines for fields, one of them empty. -/
def fieldSnippet : String :=
  "// of \x7bTableName\x7d in \x7bPackageName\x7d\n\nnext *\x7bStructName\x7d"

/-- The tags that are added are of different lengths, and the columns before them stay in place; of the
lines that are added, the empty one has no margin. -/
theorem render_sections_twoFields : ∃ before after before' after',
    render .stock twoFields = before ++ "\tUUID string `ovs:\"_uuid\"`\n" ++
      "\tTag  int    `ovs:\"tag\"`\n" ++ after ∧
    render (Template.stock.replace .extraTags tagSnippet) twoFields =
      before ++ "\tUUID string `ovs:\"_uuid\" go:\"FlowTable.UUID string\" db:\"_uuid\"`\n" ++
        "\tTag  int    `ovs:\"tag\" go:\"FlowTable.Tag int\" db:\"tag\"`\n" ++ after ∧
    render .stock twoFields = before' ++ "\tUUID string `ovs:\"_uuid\"`\n" ++
      "\tTag  int    `ovs:\"tag\"`\n" ++ "\x7d\n" ++ after' ∧
    render (Template.stock.replace .extraFields fieldSnippet) twoFields =
      before' ++ "\tUUID string `ovs:\"_uuid\"`\n" ++ "\tTag  int    `ovs:\"tag\"`\n" ++
        "\t// of Flow_Table in p\n\n\tnext *FlowTable\n" ++ "\x7d\n" ++ after' := by
  obtain ⟨-, -, -, htags, hfields⟩ := render_sections twoFields
  obtain ⟨before, after, hrender, htagged⟩ := htags .stock tagSnippet rfl
  obtain ⟨before', after', hrender', hextended⟩ := hfields .stock fieldSnippet rfl
  have hlines : String.join (twoFields.fields.map fun field => "\t" ++ fieldHead twoFields field ++
      "`\n") = "\tUUID string `ovs:\"_uuid\"`\n" ++ "\tTag  int    `ovs:\"tag\"`\n" := by
    decide +kernel
  have hlines' : String.join (twoFields.fields.map (fieldLine .stock twoFields)) =
      "\tUUID string `ovs:\"_uuid\"`\n" ++ "\tTag  int    `ovs:\"tag\"`\n" := by
    decide +kernel
  have hfilled : String.join (twoFields.fields.map fun field => "\t" ++ fieldHead twoFields field ++
      filled (modelValues twoFields ++ fieldValues field) tagSnippet ++ "`\n") =
      "\tUUID string `ovs:\"_uuid\" go:\"FlowTable.UUID string\" db:\"_uuid\"`\n" ++
        "\tTag  int    `ovs:\"tag\" go:\"FlowTable.Tag int\" db:\"tag\"`\n" := by
    decide +kernel
  have hadded : String.join
      ((Source.textLines (filled (modelValues twoFields) fieldSnippet)).map (lineText "\t")) =
        "\t// of Flow_Table in p\n\n\tnext *FlowTable\n" := by
    decide +kernel
  refine ⟨before, after, before', after', ?_, ?_, ?_, ?_⟩
  · rw [hrender, hlines]
    simp only [String.append_assoc]
  · rw [htagged, hfilled]
    simp only [String.append_assoc]
  · rw [hrender', hlines']
    simp only [String.append_assoc]
  · rw [hextended, hlines', hadded]
    simp only [String.append_assoc]

end OvsdbModels.Go
