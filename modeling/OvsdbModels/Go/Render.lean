/-
  OvsdbModels/Go/Render.lean
  ==========================
  Laying out a model as a Go file: header, package clause, definitions before the record type,
  enumerations, the record type with its comment, definitions after it.
-/
import OvsdbModels.Go.Template
import OvsdbModels.Source.Writer

namespace OvsdbModels.Go

open Source (Fragment Writer)

def fieldRow (template : Template) (model : Model) (field : Field) : List String :=
  [field.name, field.type, "`" ++ field.tag ++ template.extraTag model field ++ "`"]

def structDeclaration (template : Template) (model : Model) : Fragment :=
  let rows := model.fields.map (fieldRow template model)
  let body := (Source.align rows).map Fragment.line ++ template.fragments model .extraFields
  .block ("type " ++ model.structName ++ " struct \x7b") body (some "\x7d")

/-- Writes a block behind an empty line, or nothing if the block is empty. -/
def writeSection (w : Writer) (fragments : List Fragment) : Writer :=
  if fragments.isEmpty then w else w.pushBlank.emitAll fragments

/-- Writes the header and an empty line behind it, or nothing if there is no header. -/
def writeHeader (w : Writer) (fragments : List Fragment) : Writer :=
  if fragments.isEmpty then w else (w.emitAll fragments).pushBlank

def render (template : Template) (model : Model) : String :=
  let w := writeHeader {} (template.fragments model .header)
  let w := w.pushLine ("package " ++ model.package)
  let w := writeSection w (template.fragments model .preStructDefinitions)
  let w := writeSection w (template.fragments model .enums)
  let w := w.pushBlank.emitAll (template.fragments model .structComment)
  let w := w.emit (structDeclaration template model)
  let w := writeSection w (template.fragments model .postStructDefinitions)
  w.text

end OvsdbModels.Go
