/-
  OvsdbModels/Text/Split.lean
  ===========================
  Cutting a text at separators and into lines.

  `splitAll` keeps empty parts, so it gives one part more than there are separators.  `lines` gives
  the lines of a text: a line feed ends a line, together with one carriage return directly before
  it, and a text that ends in a line feed has no empty line after it.
-/

namespace OvsdbModels.Text

/-- The parts of a text between the characters that `isSeparator` marks, empty ones included. -/
def splitAll (isSeparator : Char → Bool) : List Char → List (List Char)
  | [] => [[]]
  | c :: rest =>
    if isSeparator c then [] :: splitAll isSeparator rest
    else
      match splitAll isSeparator rest with
      | part :: parts => (c :: part) :: parts
      | [] => [[c]]

def words (isSeparator : Char → Bool) (s : List Char) : List (List Char) :=
  (splitAll isSeparator s).filter (!·.isEmpty)

theorem splitAll_ne_nil (isSeparator : Char → Bool) (s : List Char) :
    splitAll isSeparator s ≠ [] := by
  induction s with
  | nil => simp [splitAll]
  | cons c rest ih =>
    simp only [splitAll]
    split
    · simp
    · split
      · simp
      · exact absurd ‹_› ih

/-- A separator cuts a text in two, and each side is cut by itself. -/
theorem splitAll_append_cons {isSeparator : Char → Bool} {c : Char} (h : isSeparator c = true)
    (s t : List Char) :
    splitAll isSeparator (s ++ c :: t) = splitAll isSeparator s ++ splitAll isSeparator t := by
  induction s with
  | nil => simp [splitAll, h]
  | cons d rest ih =>
    simp only [List.cons_append, splitAll, ih]
    split
    · rfl
    · cases hs : splitAll isSeparator rest with
      | nil => exact absurd hs (splitAll_ne_nil isSeparator rest)
      | cons part parts => rfl

theorem splitAll_eq_singleton {isSeparator : Char → Bool} {s : List Char}
    (h : ∀ c ∈ s, isSeparator c = false) : splitAll isSeparator s = [s] := by
  induction s with
  | nil => rfl
  | cons c rest ih =>
    have hc := h c (by simp)
    simp [splitAll, hc, ih fun d hd => h d (by simp [hd])]

/-- A separator lies between words and belongs to none. -/
theorem words_append_cons {isSeparator : Char → Bool} {c : Char} (h : isSeparator c = true)
    (s t : List Char) :
    words isSeparator (s ++ c :: t) = words isSeparator s ++ words isSeparator t := by
  simp [words, splitAll_append_cons h]

/-! ### Lines -/

/-- A line without the carriage return that precedes its line feed. -/
def dropReturn (line : List Char) : List Char :=
  match line.getLast? with
  | some '\r' => line.dropLast
  | _ => line

/-- The lines that a list of parts between line feeds holds: every part but the last was ended by a
line feed, and the last is a line only if it is not empty. -/
def linesOfParts : List (List Char) → List (List Char)
  | [] => []
  | [last] => if last.isEmpty then [] else [last]
  | part :: parts => dropReturn part :: linesOfParts parts

def lines (s : List Char) : List (List Char) :=
  linesOfParts (splitAll (· = '\n') s)

end OvsdbModels.Text
