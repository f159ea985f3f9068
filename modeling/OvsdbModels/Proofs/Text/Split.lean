/-
  OvsdbModels/Proofs/Text/Split.lean
  ==================================
  **Parts put together again.**

  The parts of a text give the text back if the separator is put between them, and lines can be told
  from their text if none of them has a line feed of its own.
-/
import Mathlib.Data.List.Basic
import Mathlib.Data.String.Basic
import OvsdbModels.Text.Split

namespace OvsdbModels.Text

/-- The parts of a text, joined by the separator, give the text. -/
theorem intercalate_splitAll (c : Char) (s : List Char) :
    [c].intercalate (splitAll (· = c) s) = s := by
  induction s with
  | nil => rfl
  | cons d rest ih =>
    obtain ⟨part, parts, hparts⟩ := List.exists_cons_of_ne_nil (splitAll_ne_nil (· = c) rest)
    by_cases hd : d = c
    · subst hd
      rw [splitAll, if_pos (decide_eq_true rfl), hparts, List.intercalate_cons_cons, ← hparts, ih]
      rfl
    · rw [splitAll, if_neg (by simpa using hd)]
      rw [hparts] at ih ⊢
      cases parts with
      | nil =>
        rw [List.intercalate_singleton] at ih ⊢
        rw [ih]
      | cons next parts =>
        rw [List.intercalate_cons_cons] at ih ⊢
        rw [← ih]
        rfl

theorem splitAll_of_notMem {c : Char} {s : List Char} (h : c ∉ s) :
    splitAll (· = c) s = [s] := by
  apply splitAll_eq_singleton
  intro d hd
  apply decide_eq_false
  rintro rfl
  exact h hd

/-! ### Lines -/

/-- Lines, each of them ended by a line feed. -/
def unlines (lines : List String) : String := String.join (lines.map (· ++ "\n"))

@[simp] theorem unlines_nil : unlines [] = "" := rfl

@[simp] theorem unlines_cons (line : String) (lines : List String) :
    unlines (line :: lines) = line ++ "\n" ++ unlines lines := by
  simp [unlines]

@[simp] theorem unlines_append (lines lines' : List String) :
    unlines (lines ++ lines') = unlines lines ++ unlines lines' := by
  simp [unlines]

theorem splitAll_unlines {lines : List String} (h : ∀ line ∈ lines, '\n' ∉ line.toList) :
    splitAll (· = '\n') (unlines lines).toList = lines.map String.toList ++ [[]] := by
  induction lines with
  | nil => rfl
  | cons line lines ih =>
    obtain ⟨hline, hlines⟩ := List.forall_mem_cons.mp h
    have htext : (unlines (line :: lines)).toList =
        line.toList ++ '\n' :: (unlines lines).toList := by
      simp
    rw [htext, splitAll_append_cons (decide_eq_true rfl), splitAll_of_notMem hline, ih hlines]
    rfl

/-- Lines without line feeds are determined by their text. -/
theorem unlines_inj {lines lines' : List String} (h : ∀ line ∈ lines, '\n' ∉ line.toList)
    (h' : ∀ line ∈ lines', '\n' ∉ line.toList) (heq : unlines lines = unlines lines') :
    lines = lines' := by
  have hparts := splitAll_unlines h
  rw [heq, splitAll_unlines h'] at hparts
  have hchars := List.append_cancel_right hparts
  exact (List.map_injective_iff.mpr (fun _ _ => String.toList_injective) hchars).symm

end OvsdbModels.Text
