/-
  OvsdbModels/Source/Writer.lean
  ==============================
  Fragments of source text, which are lines, blocks and comments before they are indented, and a
  writer that indents them.
-/
import OvsdbModels.Text.Split

namespace OvsdbModels.Source

inductive Fragment where
  | line (text : String)
  | blank
  | comment (text : String)
  /-- Fragments one level deeper. -/
  | indent (parts : List Fragment)
  /-- Fragments one after another. -/
  | sequence (parts : List Fragment)
  /-- A header, a body one level deeper, and perhaps a closing line. -/
  | block (header : String) (body : List Fragment) (close : Option String)
  deriving Inhabited

def textLines (text : String) : List String := (Text.lines text.toList).map String.ofList

def Fragment.lines (text : String) : List Fragment := (textLines text).map .line

/-! ### Indentation -/

inductive Indent where
  | spaces (width : Nat)
  | tab
  deriving DecidableEq, Repr, Inhabited

/-- The text of one level; widths other than two, four and eight count as four. -/
def Indent.text : Indent → String
  | spaces 2 => "  "
  | spaces 8 => "        "
  | spaces _ => "    "
  | tab => "\t"

/-- The text written so far, and the level at which the next line begins. -/
structure Writer where
  indent : Indent := .tab
  level : Nat := 0
  text : String := ""
  deriving DecidableEq, Repr

namespace Writer

def repeated (text : String) : Nat → String
  | 0 => ""
  | n + 1 => text ++ repeated text n

theorem repeated_eq_join (text : String) (n : Nat) :
    repeated text n = String.join (List.replicate n text) := by
  induction n with
  | zero => rfl
  | succ n ih => rw [repeated, ih, List.replicate_succ, String.join_cons]

def margin (w : Writer) : String := repeated w.indent.text w.level

def put (w : Writer) (text : String) : Writer := { w with text := w.text ++ text }

/-- Writes a line; an empty one has no white space. -/
def pushLine (w : Writer) (line : String) : Writer :=
  if line.isEmpty then w.put "\n" else w.put (w.margin ++ line ++ "\n")

def pushBlank (w : Writer) : Writer := w.put "\n"

def pushComment (w : Writer) (text : String) : Writer := w.put (w.margin ++ "// " ++ text ++ "\n")

def pushIndent (w : Writer) : Writer := { w with level := w.level + 1 }

/-- Goes back one level, if there is one. -/
def pushDedent (w : Writer) : Writer := { w with level := w.level - 1 }

mutual

def emit (w : Writer) : Fragment → Writer
  | .line text => w.pushLine text
  | .blank => w.pushBlank
  | .comment text => w.pushComment text
  | .indent parts => (emitAll w.pushIndent parts).pushDedent
  | .sequence parts => emitAll w parts
  | .block header body close =>
    let inner := (emitAll (w.pushLine header).pushIndent body).pushDedent
    match close with
    | some line => inner.pushLine line
    | none => inner

def emitAll (w : Writer) : List Fragment → Writer
  | [] => w
  | part :: parts => emitAll (emit w part) parts

end

end Writer

end OvsdbModels.Source
