/-
  OvsdbModels/Text/Blank.lean
  ===========================
  Blanks: the twenty-five characters with the `White_Space` property of Unicode.

  Blanks at the front of a text are passed over up to the first character that is none, whatever
  follows it.
-/

namespace OvsdbModels.Text

/-- White space of any script, line and page breaks included. -/
def isBlank (c : Char) : Bool :=
  let n := c.toNat
  (0x09 ≤ n && n ≤ 0x0d) || n = 0x20 || n = 0x85 || n = 0xa0 || n = 0x1680 ||
    (0x2000 ≤ n && n ≤ 0x200a) || n = 0x2028 || n = 0x2029 || n = 0x202f || n = 0x205f || n = 0x3000

def trimFront (s : List Char) : List Char := s.dropWhile isBlank

/-! ### What is passed over -/

theorem exists_blanks (s : List Char) :
    ∃ blanks, s = blanks ++ trimFront s ∧ ∀ c ∈ blanks, isBlank c = true :=
  ⟨s.takeWhile isBlank, (List.takeWhile_append_dropWhile ..).symm,
    fun _ hc => List.all_eq_true.mp (List.all_takeWhile ..) _ hc⟩

theorem trimFront_blanks_append {blanks : List Char} (h : ∀ c ∈ blanks, isBlank c = true)
    (s : List Char) : trimFront (blanks ++ s) = trimFront s :=
  List.dropWhile_append_of_pos h

theorem trimFront_cons {c : Char} (h : isBlank c = false) (s : List Char) :
    trimFront (c :: s) = c :: s :=
  List.dropWhile_cons_of_neg (by rw [h]; exact Bool.false_ne_true)

/-- What follows a text does not change where its blanks end. -/
theorem trimFront_append {s rest : List Char} {c : Char} (h : trimFront s = c :: rest)
    (t : List Char) : trimFront (s ++ t) = c :: (rest ++ t) := by
  rw [trimFront, List.dropWhile_append, ← trimFront, h]
  rfl

end OvsdbModels.Text
