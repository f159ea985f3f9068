/-
  OvsdbModels/Proofs/Source/Writing.lean
  ======================================
  **What a writer writes.**

  A fragment has a text at every level of indentation.  A writer puts it behind what it has written and
  is then back at the level where it began, whatever the fragment holds (`emit_eq`).
-/
import Mathlib.Data.String.Basic
import OvsdbModels.Source.Writer

namespace OvsdbModels.Source

/-! ### Texts of fragments -/

/-- The margin of a level of indentation, of which `unit` is one level. -/
def marginText (unit : String) (level : Nat) : String := String.join (List.replicate level unit)

/-- A line behind a margin; an empty line has no margin. -/
def lineText (margin line : String) : String :=
  if line.isEmpty then "\n" else margin ++ line ++ "\n"

mutual

/-- The text of a fragment at a level of indentation. -/
def Fragment.text (unit : String) (level : Nat) : Fragment → String
  | .line text => lineText (marginText unit level) text
  | .blank => "\n"
  | .comment text => marginText unit level ++ "// " ++ text ++ "\n"
  | .indent parts => Fragment.texts unit (level + 1) parts
  | .sequence parts => Fragment.texts unit level parts
  | .block header body close =>
    lineText (marginText unit level) header ++ Fragment.texts unit (level + 1) body ++
      match close with
      | some last => lineText (marginText unit level) last
      | none => ""

/-- The texts of fragments, one after another. -/
def Fragment.texts (unit : String) (level : Nat) : List Fragment → String
  | [] => ""
  | part :: parts => part.text unit level ++ Fragment.texts unit level parts

end

@[simp] theorem marginText_zero (unit : String) : marginText unit 0 = "" := rfl

@[simp] theorem marginText_one (unit : String) : marginText unit 1 = unit := by
  simp [marginText]

theorem Fragment.texts_eq_join (unit : String) (level : Nat) (parts : List Fragment) :
    texts unit level parts = String.join (parts.map (text unit level)) := by
  induction parts with
  | nil => simp [texts]
  | cons part parts ih => simp [texts, ih]

theorem Fragment.texts_append (unit : String) (level : Nat) (parts parts' : List Fragment) :
    texts unit level (parts ++ parts') = texts unit level parts ++ texts unit level parts' := by
  simp [texts_eq_join]

theorem Fragment.texts_lines (unit : String) (level : Nat) (lines : List String) :
    texts unit level (lines.map .line) =
      String.join (lines.map (lineText (marginText unit level))) := by
  rw [texts_eq_join, List.map_map]
  rfl

theorem lineText_of_ne {margin line : String} (h : line ≠ "") :
    lineText margin line = margin ++ line ++ "\n" := by
  have hempty : line.isEmpty = false := by simpa using h
  simp [lineText, hempty]

@[simp] theorem lineText_empty (line : String) : lineText "" line = line ++ "\n" := by
  unfold lineText
  split
  · simp_all
  · simp

/-! ### Writing -/

namespace Writer

theorem margin_eq (w : Writer) : w.margin = marginText w.indent.text w.level :=
  repeated_eq_join ..

theorem pushLine_eq (w : Writer) (line : String) :
    w.pushLine line = w.put (lineText (marginText w.indent.text w.level) line) := by
  rw [← margin_eq]
  unfold pushLine lineText
  split
  · rfl
  · rfl

mutual

/-- Writing a fragment puts its text behind what is written, and leaves the level as it was. -/
theorem emit_eq (w : Writer) (fragment : Fragment) :
    w.emit fragment = w.put (fragment.text w.indent.text w.level) := by
  cases fragment with
  | line text => simp [emit, pushLine_eq, Fragment.text]
  | blank => simp [emit, pushBlank, Fragment.text]
  | comment text => simp [emit, pushComment, margin_eq, Fragment.text]
  | indent parts =>
    rw [emit, emitAll_eq, Fragment.text]
    simp [pushIndent, pushDedent, put]
  | sequence parts => simp [emit, emitAll_eq, Fragment.text]
  | block header body close =>
    cases close with
    | none =>
      simp [emit, emitAll_eq, Fragment.text, pushLine_eq, pushIndent, pushDedent, put,
        String.append_assoc]
    | some last =>
      simp [emit, emitAll_eq, Fragment.text, pushLine_eq, pushIndent, pushDedent, put,
        String.append_assoc]

theorem emitAll_eq (w : Writer) (parts : List Fragment) :
    w.emitAll parts = w.put (Fragment.texts w.indent.text w.level parts) := by
  cases parts with
  | nil => simp [emitAll, Fragment.texts, put]
  | cons part parts =>
    rw [emitAll, emit_eq, emitAll_eq, Fragment.texts]
    simp [put, String.append_assoc]

end

end Writer

end OvsdbModels.Source
