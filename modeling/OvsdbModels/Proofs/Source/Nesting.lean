/-
  OvsdbModels/Proofs/Source/Nesting.lean
  ======================================
  **How deep fragments are nested does not show behind them.**

  A fragment only adds its text, so what follows it is written as if the fragment had not been there, and
  a list of fragments is written one fragment after another (`emit_adds_text`).  A sequence is no more than its
  parts: wherever it stands, however deep, its parts can stand there instead
  (`Fragment.texts_fill_congr`).
-/
import OvsdbModels.Proofs.Source.Writing

namespace OvsdbModels.Source

/-! ### Places -/

/-- A place in a list of fragments, or in the parts of one of them, at any depth. -/
inductive Place where
  | here (before after : List Fragment)
  | inIndent (before : List Fragment) (place : Place) (after : List Fragment)
  | inSequence (before : List Fragment) (place : Place) (after : List Fragment)
  | inBlock (before : List Fragment) (header : String) (place : Place) (close : Option String)
      (after : List Fragment)

/-- The fragments that have the given ones at a place. -/
def Place.fill (parts : List Fragment) : Place → List Fragment
  | here before after => before ++ parts ++ after
  | inIndent before place after => before ++ .indent (place.fill parts) :: after
  | inSequence before place after => before ++ .sequence (place.fill parts) :: after
  | inBlock before header place close after =>
    before ++ .block header (place.fill parts) close :: after

namespace Fragment

/-- Fragments with one text at every level have one text wherever they stand. -/
theorem texts_fill_congr {unit : String} {parts parts' : List Fragment}
    (h : ∀ level, texts unit level parts = texts unit level parts') (place : Place) (level : Nat) :
    texts unit level (place.fill parts) = texts unit level (place.fill parts') := by
  induction place generalizing level with
  | here before after => simp only [Place.fill, texts_append, h]
  | inIndent before place after ih => simp only [Place.fill, texts_append, texts, text, ih]
  | inSequence before place after ih => simp only [Place.fill, texts_append, texts, text, ih]
  | inBlock before header place close after ih =>
    simp only [Place.fill, texts_append, texts, text, ih]

/-- A sequence has the text of its parts. -/
theorem texts_sequence (unit : String) (level : Nat) (parts : List Fragment) :
    texts unit level [.sequence parts] = texts unit level parts := by
  simp [texts, text]

end Fragment

/-! ### Writing one fragment after another -/

namespace Writer

theorem emitAll_eq_foldl (w : Writer) (parts : List Fragment) :
    w.emitAll parts = parts.foldl emit w := by
  induction parts generalizing w with
  | nil => rfl
  | cons part parts ih => rw [emitAll, ih, List.foldl_cons]

theorem put_put (w : Writer) (text text' : String) :
    (w.put text).put text' = w.put (text ++ text') := by
  simp [put, String.append_assoc]

/-- Writing a fragment adds its text and does nothing else. -/
theorem emit_adds_text (w : Writer) (fragment : Fragment) :
    w.emit fragment =
        { w with text := w.text ++ fragment.text w.indent.text w.level } ∧
      (∀ next, (w.emit fragment).emit next =
        w.put (fragment.text w.indent.text w.level ++ next.text w.indent.text w.level)) ∧
      (∀ parts, w.emitAll parts = parts.foldl emit w) ∧
      ∀ (place : Place) (parts : List Fragment),
        w.emitAll (place.fill [.sequence parts]) = w.emitAll (place.fill parts) := by
  refine ⟨w.emit_eq fragment, fun next => ?_, w.emitAll_eq_foldl, fun place parts => ?_⟩
  · rw [emit_eq, emit_eq, put_put]
    rfl
  · have htexts := fun level => Fragment.texts_sequence w.indent.text level parts
    rw [emitAll_eq, emitAll_eq, Fragment.texts_fill_congr htexts]

end Writer

end OvsdbModels.Source
