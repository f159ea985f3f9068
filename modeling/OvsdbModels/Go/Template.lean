/-
  OvsdbModels/Go/Template.lean
  ============================
  Templates: the parts of a generated file that a user may replace by snippets.

  A snippet may name the table, the package and the record type, and the snippet for tags also the
  field, by placeholders in braces.  They are replaced one after another.
-/
import OvsdbModels.Go.Target
import OvsdbModels.Model.Basic
import OvsdbModels.Source.Align
import OvsdbModels.Source.Writer
import OvsdbModels.Text.Replace

namespace OvsdbModels.Go

open Source (Fragment)

/-! ### Blocks -/

/-- The parts of a file that may be replaced. -/
inductive Block where
  | header
  | preStructDefinitions
  | structComment
  | enums
  | extraTags
  | extraFields
  | postStructDefinitions
  deriving DecidableEq, Repr

namespace Block

/-- All blocks, in the order in which a file shows them. -/
def all : List Block :=
  [header, preStructDefinitions, structComment, enums, extraTags, extraFields,
    postStructDefinitions]

def name : Block → String
  | header => "header"
  | preStructDefinitions => "preStructDefinitions"
  | structComment => "structComment"
  | enums => "enums"
  | extraTags => "extraTags"
  | extraFields => "extraFields"
  | postStructDefinitions => "postStructDefinitions"

def ofName? (name : String) : Option Block := all.find? (·.name = name)

end Block

/-- A name that is not the name of a block. -/
structure UnknownBlock where
  name : String
  deriving DecidableEq, Repr

namespace UnknownBlock

def message (error : UnknownBlock) : String := "unknown template block '" ++ error.name ++ "'"

def code : String := "ovsgen::unknown_block"

def help : String :=
  "valid blocks are header, preStructDefinitions, structComment, enums, extraTags, extraFields " ++
    "and postStructDefinitions"

end UnknownBlock

/-! ### Templates -/

/-- The snippets that replace blocks; a block without one is the stock block. -/
structure Template where
  snippet : Block → Option String

namespace Template

def stock : Template := ⟨fun _ => none⟩

instance : Inhabited Template := ⟨stock⟩

def replace (template : Template) (block : Block) (text : String) : Template :=
  ⟨fun b => if b = block then some text else template.snippet b⟩

/-- Adds snippets by the names of their blocks; of two with one name the later counts. -/
def addNamed (template : Template) : List (String × String) → Except UnknownBlock Template
  | [] => .ok template
  | (name, text) :: rest =>
    match Block.ofName? name with
    | some block => (template.replace block text).addNamed rest
    | none => .error ⟨name⟩

/-- The template of named snippets; the first name that is no block is an error. -/
def ofNamed (snippets : List (String × String)) : Except UnknownBlock Template :=
  stock.addNamed snippets

def isStock (template : Template) : Bool :=
  Block.all.all fun block => (template.snippet block).isNone

end Template

/-! ### Placeholders -/

def fillModel (text : String) (model : Model) : String :=
  let text := Text.replaceAll "\x7bTableName\x7d" model.table text
  let text := Text.replaceAll "\x7bPackageName\x7d" model.package text
  Text.replaceAll "\x7bStructName\x7d" model.structName text

def fillField (text : String) (model : Model) (field : Field) : String :=
  let text := fillModel text model
  let text := Text.replaceAll "\x7bColumn\x7d" field.column text
  let text := Text.replaceAll "\x7bName\x7d" field.name text
  Text.replaceAll "\x7bType\x7d" field.type text

/-! ### Stock blocks -/

def stockHeader : List Fragment :=
  [.comment "Code generated by \"ovsgen\"", .comment "DO NOT EDIT."]

def stockComment (model : Model) : List Fragment :=
  [.comment (model.structName ++ " defines an object in " ++ model.table ++ " table")]

def group (keyword : String) (rows : List (List String)) : Fragment :=
  .block (keyword ++ " (") ((Source.align rows).map .line) (some ")")

def aliasRow (e : Enumeration) : List String := [e.name, "= " ++ e.type]

def constantRows (e : Enumeration) : List (List String) :=
  e.constants.map fun (name, value) => [name, e.name, "= " ++ literal value]

def stockEnums (model : Model) : List Fragment :=
  if model.enums.isEmpty then []
  else
    [group "type" (model.enums.map aliasRow), .blank,
      group "const" (model.enums.flatMap constantRows)]

def stockBlock (model : Model) : Block → List Fragment
  | .header => stockHeader
  | .structComment => stockComment model
  | .enums => stockEnums model
  | _ => []

def Template.fragments (template : Template) (model : Model) (block : Block) : List Fragment :=
  match template.snippet block with
  | some text => Fragment.lines (fillModel text model)
  | none => stockBlock model block

/-- What follows the tag of a field. -/
def Template.extraTag (template : Template) (model : Model) (field : Field) : String :=
  match template.snippet .extraTags with
  | some text => fillField text model field
  | none => ""

end OvsdbModels.Go
