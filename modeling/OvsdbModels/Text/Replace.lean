/-
  OvsdbModels/Text/Replace.lean
  =============================
  Replacing every occurrence of a word in a text, from left to right and without overlaps.  The
  replacement itself is never searched.

  What a replacement does to a text is told by what the text begins with: an occurrence of the word
  gives the value, and a character at which no occurrence begins is kept.  A word that begins with a
  character of its own leaves every stretch without that character as it is.
-/

namespace OvsdbModels.Text

/-- Replaces `word` by `value`; the first `skip` characters belong to an occurrence that has
been replaced already and are left out. -/
def replaceFrom (word value : List Char) (skip : Nat) : List Char → List Char
  | [] => []
  | c :: rest =>
    match skip with
    | n + 1 => replaceFrom word value n rest
    | 0 =>
      if word.isPrefixOf (c :: rest) then
        value ++ replaceFrom word value (word.length - 1) rest
      else c :: replaceFrom word value 0 rest

/-- Replaces every occurrence of a non-empty word. -/
def replaceAll (word value text : String) : String :=
  String.ofList (replaceFrom word.toList value.toList 0 text.toList)

/-! ### By the beginning of the text -/

variable {word value s t : List Char}

theorem replaceFrom_eq_drop (word value : List Char) (n : Nat) (s : List Char) :
    replaceFrom word value n s = replaceFrom word value 0 (s.drop n) := by
  induction s generalizing n with
  | nil => simp [replaceFrom]
  | cons c s ih =>
    cases n with
    | zero => rfl
    | succ n => simp only [replaceFrom, List.drop_succ_cons, ih]

theorem replaceFrom_word_append (h : word ≠ []) (value s : List Char) :
    replaceFrom word value 0 (word ++ s) = value ++ replaceFrom word value 0 s := by
  cases word with
  | nil => exact absurd rfl h
  | cons c word =>
    have hbegins : (c :: word).isPrefixOf (c :: (word ++ s)) = true := by simp
    rw [List.cons_append, replaceFrom, if_pos hbegins, replaceFrom_eq_drop]
    simp

theorem replaceFrom_cons {c : Char} (h : ¬ word <+: c :: s) (value : List Char) :
    replaceFrom word value 0 (c :: s) = c :: replaceFrom word value 0 s := by
  rw [replaceFrom, if_neg fun hbegins => h (List.isPrefixOf_iff_prefix.mp hbegins)]

theorem not_prefix_of_ne {opening c : Char} (h : c ≠ opening) : ¬ opening :: word <+: c :: s := by
  intro hbegins
  exact h (List.cons_prefix_cons.mp hbegins).1.symm

/-- A stretch in which no occurrence can begin is kept. -/
theorem replaceFrom_append {opening : Char} (h : opening ∉ s) (word value t : List Char) :
    replaceFrom (opening :: word) value 0 (s ++ t) =
      s ++ replaceFrom (opening :: word) value 0 t := by
  induction s with
  | nil => rfl
  | cons c s ih =>
    obtain ⟨hc, hs⟩ := not_or.mp (mt List.mem_cons.mpr h)
    rw [List.cons_append, replaceFrom_cons (not_prefix_of_ne (Ne.symm hc)), ih hs, List.cons_append]

theorem head?_replaceFrom {opening : Char} (h : s.head? ≠ some opening) (word value : List Char) :
    (replaceFrom (opening :: word) value 0 s).head? = s.head? := by
  cases s with
  | nil => rfl
  | cons c s =>
    have hc : c ≠ opening := by simpa using h
    rw [replaceFrom_cons (not_prefix_of_ne hc)]
    rfl

end OvsdbModels.Text
