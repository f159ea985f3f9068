/-
  OvsdbModels/Proofs/Go/Digest.lean
  =================================
  **What the stock rendering tells.**

  The digest of a model has what the stock file of the model shows.  The file is made of the digest
  alone (`render_stock`), and the digest can be read back from it as long as names have no spaces and
  nothing runs over the end of its line: the lines of a group begin with a tab and the line behind them
  does not, and the cells of a line end where its space begins (`eq_of_unlines_eq`).
-/
import OvsdbModels.Proofs.Go.Sections
import OvsdbModels.Proofs.Text.Split

namespace OvsdbModels

open Source (Fragment IsCell IsFlush IsRow rowOf)
open Text (unlines)

namespace Go

/-! ### Digests -/

/-- What the stock file of a model shows. -/
structure Digest where
  table : String
  package : String
  structName : String
  /-- The names, types and tags of the fields. -/
  fields : List (String × String × String)
  /-- The aliases and their types. -/
  aliases : List (String × String)
  /-- The names, aliases and literals of the constants of all enumerations. -/
  constants : List (String × String × String)
  deriving DecidableEq, Repr

end Go

/-- The digest of a model. -/
def Model.digest (model : Model) : Go.Digest where
  table := model.table
  package := model.package
  structName := model.structName
  fields := model.fields.map fun field => (field.name, field.type, field.tag)
  aliases := model.enums.map fun e => (e.name, e.type)
  constants := model.enums.flatMap fun e =>
    e.constants.map fun (name, value) => (name, e.name, Go.literal value)

namespace Go

/-- The row of an entry with two cells in front of its last. -/
def entryRow (last : String → String) : String × String × String → List String :=
  rowOf [(·.1), (·.2.1)] fun entry => last entry.2.2

def pairRow : String × String → List String := rowOf [(·.1)] fun entry => "= " ++ entry.2

/-- Rows between a line that opens them and a line that closes them. -/
def groupLines (opening : String) (rows : List (List String)) (closing : String) : List String :=
  opening :: (Source.align rows).map ("\t" ++ ·) ++ [closing]

namespace Digest

def aliasLines (d : Digest) : List String := groupLines "type (" (d.aliases.map pairRow) ")"

def constantLines (d : Digest) : List String :=
  groupLines "const (" (d.constants.map (entryRow ("= " ++ ·))) ")"

def structLines (d : Digest) : List String :=
  groupLines ("type " ++ d.structName ++ " struct \x7b")
    (d.fields.map (entryRow fun tag => "`" ++ tag ++ "`")) "\x7d"

def enumLines (d : Digest) : List String :=
  if d.aliases = [] then [] else "" :: d.aliasLines ++ "" :: d.constantLines

def comment (d : Digest) : String :=
  "// " ++ (d.structName ++ " defines an object in " ++ d.table ++ " table")

/-- The lines of a section in the stock file. -/
def sectionLines (d : Digest) : Section → List String
  | .header => ["// Code generated by \"ovsgen\"", "// DO NOT EDIT.", ""]
  | .packageClause => ["package " ++ d.package]
  | .preStructDefinitions => []
  | .enums => d.enumLines
  | .structComment => ["", d.comment]
  | .declaration => d.structLines
  | .postStructDefinitions => []

/-- The lines of the stock file. -/
def lines (d : Digest) : List String := Section.all.flatMap d.sectionLines

end Digest

/-! ### The stock file -/

theorem text_block {opening closing : String} {α : Type} {columns : List (α → String)}
    {last : α → String} {items : List α} (h : ∀ item ∈ items, last item ≠ "") :
    Fragment.text "\t" 0 (.block opening
        ((Source.align (items.map (rowOf columns last))).map .line) (some closing)) =
      unlines (groupLines opening (items.map (rowOf columns last)) closing) := by
  have hrows : (Source.align (items.map (rowOf columns last))).map (Source.lineText "\t") =
      (Source.align (items.map (rowOf columns last))).map ("\t" ++ · ++ "\n") := by
    apply List.map_congr_left
    intro line hline
    rw [Source.align_rows columns h] at hline
    obtain ⟨item, hitem, rfl⟩ := List.mem_map.mp hline
    apply Source.lineText_of_ne
    simp [h item hitem]
  rw [Fragment.text, Fragment.texts_lines, Nat.zero_add, Source.marginText_one, hrows,
    Source.marginText_zero]
  simp [groupLines, unlines, Function.comp_def, String.append_assoc]

theorem text_stock_enums (model : Model) : Section.enums.text .stock model =
    unlines model.digest.enumLines := by
  have hfragments : Template.stock.fragments model .enums = stockEnums model := rfl
  have haliases : model.enums.map aliasRow = model.digest.aliases.map pairRow := by
    simp [Model.digest, aliasRow, pairRow, rowOf, Function.comp_def]
  have hconstants : model.enums.flatMap constantRows =
      model.digest.constants.map (entryRow ("= " ++ ·)) := by
    simp only [Model.digest, List.map_flatMap, List.map_map]
    rfl
  have htype : Fragment.text "\t" 0 (group "type" (model.enums.map aliasRow)) =
      unlines model.digest.aliasLines := by
    rw [haliases]
    exact text_block (by simp)
  have hconst : Fragment.text "\t" 0 (group "const" (model.enums.flatMap constantRows)) =
      unlines model.digest.constantLines := by
    rw [hconstants]
    exact text_block (by simp)
  by_cases hempty : model.enums = []
  · simp [Section.text, Template.apart, hfragments, stockEnums, hempty, Digest.enumLines,
      Model.digest]
  · have hnone : model.digest.aliases ≠ [] := by simpa [Model.digest] using hempty
    simp [Section.text, Template.apart, Template.blockText, hfragments, stockEnums, hempty,
      Digest.enumLines, hnone, Fragment.texts, htype, hconst, Fragment.text]

theorem text_stock_declaration (model : Model) : Section.declaration.text .stock model =
    unlines model.digest.structLines := by
  have hrows : model.fields.map (fieldRow .stock model) =
      model.digest.fields.map (entryRow fun tag => "`" ++ tag ++ "`") := by
    simp [Model.digest, fieldRow, entryRow, rowOf, Function.comp_def, Template.extraTag,
      Template.stock]
  have hnone : Template.stock.fragments model .extraFields = [] := rfl
  unfold Section.text structDeclaration
  simp only [hrows, hnone, List.append_nil]
  exact text_block (by simp)

/-- In the stock file a section has the lines that the digest gives it. -/
theorem text_stock (model : Model) (s : Section) :
    s.text .stock model = unlines (model.digest.sectionLines s) := by
  cases s with
  | header => rfl
  | packageClause => simp [Section.text, Digest.sectionLines, Model.digest, String.append_assoc]
  | preStructDefinitions => rfl
  | enums => exact text_stock_enums model
  | structComment =>
    have hfragments : Template.stock.fragments model .structComment = stockComment model := rfl
    simp [Section.text, Template.blockText, hfragments, stockComment, Fragment.texts, Fragment.text,
      Digest.sectionLines, Digest.comment, Model.digest, String.append_assoc]
  | declaration => exact text_stock_declaration model
  | postStructDefinitions => rfl

theorem render_stock (model : Model) : render .stock model = unlines model.digest.lines := by
  rw [render_eq_join]
  simp [Section.all, text_stock, Digest.lines]

/-! ### Groups of lines -/

def isTabbed (line : String) : Bool := line.toList.head? = some '\t'

/-- Lists are cut at their first element outside a class. -/
theorem append_cons_inj_of_stop {α : Type} {p : α → Bool} {stop : α} {xs xs' ys ys' : List α}
    (hxs : ∀ x ∈ xs, p x = true) (hxs' : ∀ x ∈ xs', p x = true) (hstop : p stop = false)
    (h : xs ++ stop :: ys = xs' ++ stop :: ys') : xs = xs' ∧ ys = ys' := by
  have hfirst := congrArg (List.takeWhile p) h
  simp only [List.takeWhile_append_of_pos hxs, List.takeWhile_append_of_pos hxs',
    List.takeWhile_cons_of_neg (Bool.eq_false_iff.mp hstop), List.append_nil] at hfirst
  subst hfirst
  have hlater := List.append_cancel_left h
  exact ⟨rfl, (List.cons.inj hlater).2⟩

section Groups

variable {α : Type} {columns : List (α → String)} {last : α → String} {items items' : List α}
  {opening opening' closing : String}

theorem newline_notMem_groupLines (hopening : '\n' ∉ opening.toList)
    (hclosing : '\n' ∉ closing.toList) (hitems : ∀ item ∈ items, IsRow columns last item) :
    ∀ line ∈ groupLines opening (items.map (rowOf columns last)) closing, '\n' ∉ line.toList := by
  intro line hline
  simp only [groupLines, List.mem_append, List.mem_cons, List.mem_map, List.not_mem_nil,
    or_false] at hline
  rcases hline with (rfl | ⟨row, hrow, rfl⟩) | rfl
  · exact hopening
  · have hflush := Source.isFlush_of_mem_align hitems row hrow
    simpa using hflush.newline_notMem
  · exact hclosing

/-- The items of a group can be read back from its lines, and the group ends where it is closed. -/
theorem groupLines_append_inj (hrow : Function.Injective (rowOf columns last))
    (hitems : ∀ item ∈ items, IsRow columns last item)
    (hitems' : ∀ item ∈ items', IsRow columns last item) (hclosing : isTabbed closing = false)
    {rest rest' : List String}
    (h : groupLines opening (items.map (rowOf columns last)) closing ++ rest =
      groupLines opening' (items'.map (rowOf columns last)) closing ++ rest') :
    opening = opening' ∧ items = items' ∧ rest = rest' := by
  have htabbed (lines : List String) : ∀ line ∈ lines.map ("\t" ++ ·), isTabbed line = true := by
    intro line hline
    obtain ⟨row, -, rfl⟩ := List.mem_map.mp hline
    simp [isTabbed]
  simp only [groupLines, List.cons_append, List.append_assoc, List.nil_append] at h
  obtain ⟨hopening, h⟩ := List.cons.inj h
  obtain ⟨hlines, hrest⟩ := append_cons_inj_of_stop (htabbed _) (htabbed _) hclosing h
  have haligned := List.map_injective_iff.mpr
    (fun _ _ heq => (String.append_right_inj "\t").mp heq) hlines
  have hrows := Source.map_cellsOf_align hitems
  rw [haligned, Source.map_cellsOf_align hitems'] at hrows
  exact ⟨hopening, (List.map_injective_iff.mpr hrow hrows).symm, hrest⟩

end Groups

/-! ### Legible digests -/

theorem entryRow_injective {last : String → String} (h : Function.Injective last) :
    Function.Injective (entryRow last) := by
  rintro ⟨name, type, text⟩ ⟨name', type', text'⟩ heq
  simp only [entryRow, rowOf, List.map_cons, List.map_nil, List.cons_append, List.nil_append,
    List.cons.injEq, and_true] at heq
  obtain ⟨rfl, rfl, htext⟩ := heq
  rw [h htext]

theorem pairRow_injective : Function.Injective pairRow := by
  rintro ⟨name, type⟩ ⟨name', type'⟩ heq
  simp only [pairRow, rowOf, List.map_cons, List.map_nil, List.cons_append, List.nil_append,
    List.cons.injEq, and_true] at heq
  obtain ⟨rfl, htype⟩ := heq
  rw [(String.append_right_inj "= ").mp htype]

namespace Digest

/-- Names and types without spaces, and nothing that runs over the end of its line. -/
structure Legible (d : Digest) : Prop where
  table : '\n' ∉ d.table.toList
  package : '\n' ∉ d.package.toList
  structName : '\n' ∉ d.structName.toList
  fields : ∀ field ∈ d.fields, IsCell field.1 ∧ IsCell field.2.1 ∧ '\n' ∉ field.2.2.toList
  aliases : ∀ pair ∈ d.aliases, IsCell pair.1 ∧ '\n' ∉ pair.2.toList
  constants : ∀ constant ∈ d.constants,
    IsCell constant.1 ∧ IsCell constant.2.1 ∧ '\n' ∉ constant.2.2.toList
  /-- There are no constants without an alias. -/
  enums : d.aliases = [] → d.constants = []

variable {d d' : Digest}

/-! ### Rows of a digest -/

theorem Legible.isRow_field (h : d.Legible) : ∀ field ∈ d.fields,
    IsRow [(·.1), (·.2.1)] (fun entry : String × String × String => "`" ++ entry.2.2 ++ "`") field := by
  intro field hfield
  obtain ⟨hname, htype, htag⟩ := h.fields field hfield
  have hopen : IsFlush "`" := by decide
  exact ⟨by simp [hname, htype], (hopen.append htag).append (by decide)⟩

theorem Legible.isRow_alias (h : d.Legible) : ∀ pair ∈ d.aliases,
    IsRow [(·.1)] (fun entry : String × String => "= " ++ entry.2) pair := by
  intro pair hpair
  obtain ⟨hname, htype⟩ := h.aliases pair hpair
  have hopen : IsFlush "= " := by decide
  exact ⟨by simp [hname], hopen.append htype⟩

theorem Legible.isRow_constant (h : d.Legible) : ∀ constant ∈ d.constants,
    IsRow [(·.1), (·.2.1)] (fun entry : String × String × String => "= " ++ entry.2.2) constant := by
  intro constant hconstant
  obtain ⟨hname, htype, hliteral⟩ := h.constants constant hconstant
  have hopen : IsFlush "= " := by decide
  exact ⟨by simp [hname, htype], hopen.append hliteral⟩

/-! ### Lines of a digest -/

theorem lines_eq (d : Digest) : d.lines =
    d.sectionLines .header ++ ("package " ++ d.package) :: (d.enumLines ++
      "" :: d.comment :: d.structLines) := by
  simp [lines, Section.all, sectionLines]

theorem Legible.newline_notMem_enumLines (h : d.Legible) :
    ∀ line ∈ d.enumLines, '\n' ∉ line.toList := by
  intro line hline
  unfold enumLines at hline
  split at hline
  · exact absurd hline List.not_mem_nil
  · simp only [List.cons_append, List.mem_cons, List.mem_append] at hline
    rcases hline with rfl | halias | rfl | hconstant
    · decide
    · exact newline_notMem_groupLines (by decide) (by decide) h.isRow_alias line halias
    · decide
    · exact newline_notMem_groupLines (by decide) (by decide) h.isRow_constant line hconstant

theorem Legible.newline_notMem (h : d.Legible) : ∀ line ∈ d.lines, '\n' ∉ line.toList := by
  have hstruct : ∀ line ∈ d.structLines, '\n' ∉ line.toList := by
    apply newline_notMem_groupLines _ (by decide) h.isRow_field
    simpa using h.structName
  intro line hline
  rw [lines_eq, List.mem_append, List.mem_cons, List.mem_append, List.mem_cons, List.mem_cons] at hline
  rcases hline with hheader | rfl | henum | rfl | rfl | hfield
  · have hall : ∀ line ∈ (["// Code generated by \"ovsgen\"", "// DO NOT EDIT.", ""] : List String),
        '\n' ∉ line.toList := by decide
    exact hall line hheader
  · simpa using h.package
  · exact h.newline_notMem_enumLines line henum
  · decide
  · simp [comment, h.structName, h.table]
  · exact hstruct line hfield

/-! ### Reading the digest back -/

/-- The comment is not a line that opens a group. -/
theorem comment_ne (d : Digest) {keyword : String} (h : keyword.toList.head? ≠ some '/') :
    d.comment ≠ keyword := by
  rintro rfl
  simp [comment] at h

theorem enumLines_append_inj (h : d.Legible) (h' : d'.Legible) {rest rest' : List String}
    (heq : d.enumLines ++ "" :: d.comment :: rest = d'.enumLines ++ "" :: d'.comment :: rest') :
    d.aliases = d'.aliases ∧ d.constants = d'.constants ∧ d.comment = d'.comment ∧ rest = rest' := by
  unfold enumLines at heq
  -- the line behind the empty one opens a group if there are enumerations, and else is the comment
  by_cases hnone : d.aliases = [] <;> by_cases hnone' : d'.aliases = []
  · simp only [hnone, hnone', if_true, List.nil_append, List.cons.injEq, true_and] at heq
    rw [hnone, hnone', h.enums hnone, h'.enums hnone']
    exact ⟨rfl, rfl, heq⟩
  · simp only [hnone, hnone', if_true, if_false, List.nil_append, List.cons_append, List.cons.injEq,
      true_and, aliasLines, groupLines] at heq
    exact absurd heq.1 (d.comment_ne (by decide))
  · simp only [hnone, hnone', if_true, if_false, List.nil_append, List.cons_append, List.cons.injEq,
      true_and, aliasLines, groupLines] at heq
    exact absurd heq.1.symm (d'.comment_ne (by decide))
  · simp only [hnone, hnone', if_false, List.cons_append, List.append_assoc, List.cons.injEq,
      true_and] at heq
    obtain ⟨-, haliases, heq⟩ := groupLines_append_inj pairRow_injective h.isRow_alias
      h'.isRow_alias (by decide) heq
    obtain ⟨-, hconstants, heq⟩ := groupLines_append_inj
      (entryRow_injective fun _ _ heq => (String.append_right_inj "= ").mp heq)
      h.isRow_constant h'.isRow_constant (by decide) (List.cons.inj heq).2
    simp only [List.cons.injEq, true_and] at heq
    exact ⟨haliases, hconstants, heq⟩

/-- A legible digest can be read back from the lines of the stock file. -/
theorem eq_of_unlines_eq (h : d.Legible) (h' : d'.Legible)
    (heq : unlines d.lines = unlines d'.lines) : d = d' := by
  have hlines := Text.unlines_inj h.newline_notMem h'.newline_notMem heq
  rw [lines_eq, lines_eq] at hlines
  obtain ⟨hpackage, hlines⟩ := List.cons.inj (List.append_cancel_left hlines)
  obtain ⟨haliases, hconstants, hcomment, hstruct⟩ := enumLines_append_inj h h' hlines
  have hname : Function.Injective fun tag => "`" ++ tag ++ "`" := by
    intro tag tag' heq
    exact (String.append_right_inj "`").mp ((String.append_left_inj "`").mp heq)
  rw [← List.append_nil d.structLines, ← List.append_nil d'.structLines] at hstruct
  obtain ⟨hopening, hfields, -⟩ := groupLines_append_inj (entryRow_injective hname) h.isRow_field
    h'.isRow_field (by decide) hstruct
  have hstructName : d.structName = d'.structName := by simpa using hopening
  have htable : d.table = d'.table := by simpa [comment, hstructName] using hcomment
  have hpackage : d.package = d'.package := by simpa using hpackage
  cases d
  cases d'
  simp_all

end Digest

end Go

end OvsdbModels
