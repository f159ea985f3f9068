/-
  OvsdbModels/Proofs/Text/Form.lean
  =================================
  **Texts of a simple form.**

  A form is a class of characters for the first character and a class for all later ones.  The classes
  that matter here are in ASCII, where letter case is arithmetic.
-/
import OvsdbModels.Text.Letter

namespace OvsdbModels.Text

/-! ### Classes of characters -/

/-- The characters that may stand in an identifier behind the first. -/
def isWordChar (c : Char) : Bool := c.isAlphanum || c = '_'

theorem ascii_of_le {c : Char} {bound : UInt32} (h : c.val ≤ bound) (hbound : bound < 128) :
    c.toNat < 128 :=
  UInt32.lt_iff_toNat_lt.mp (UInt32.lt_of_le_of_lt h hbound)

theorem ascii_of_isAlphanum {c : Char} (h : c.isAlphanum = true) : c.toNat < 128 := by
  rcases (Bool.or_eq_true _ _).mp h with hletter | hdigit
  · rcases (Bool.or_eq_true _ _).mp hletter with hupper | hlower
    · exact ascii_of_le (of_decide_eq_true hupper).2 (by decide)
    · exact ascii_of_le (of_decide_eq_true ((Bool.and_eq_true _ _).mp hlower).2) (by decide)
  · exact ascii_of_le (of_decide_eq_true ((Bool.and_eq_true _ _).mp hdigit).2) (by decide)

theorem ascii_of_isWordChar {c : Char} (h : isWordChar c = true) : c.toNat < 128 := by
  rcases (Bool.or_eq_true _ _).mp h with h | h
  · exact ascii_of_isAlphanum h
  · rw [of_decide_eq_true h]
    decide

/-- What is true of 128 characters is true of all characters in ASCII. -/
theorem forall_ascii {p : Char → Prop} (h : ∀ n < 128, p (Char.ofNat n)) {c : Char}
    (hc : c.toNat < 128) : p c := by
  have hn := h c.toNat hc
  rwa [Char.ofNat_toNat] at hn

theorem isAlphanum_of_isAlpha {c : Char} (h : c.isAlpha = true) : c.isAlphanum = true := by
  rw [Char.isAlphanum, h, Bool.true_or]

theorem isWordChar_iff (c : Char) : isWordChar c = true ↔ c.isAlphanum = true ∨ c = '_' := by
  rw [isWordChar, Bool.or_eq_true, decide_eq_true_iff]

theorem isWordChar_of_isAlphanum {c : Char} (h : c.isAlphanum = true) : isWordChar c = true := by
  rw [isWordChar, h, Bool.true_or]

/-! ### Texts in ASCII -/

/-- Whether all characters of a text are in ASCII. -/
def IsAscii (s : List Char) : Prop := ∀ c ∈ s, c.toNat < 128

instance (s : List Char) : Decidable (IsAscii s) :=
  List.decidableBAll (fun c : Char => c.toNat < 128) s

namespace IsAscii

variable {s t : List Char}

theorem append (hs : IsAscii s) (ht : IsAscii t) : IsAscii (s ++ t) := by
  intro c hc
  rcases List.mem_append.mp hc with hc | hc
  · exact hs c hc
  · exact ht c hc

theorem cons {c : Char} (hc : c.toNat < 128) (hs : IsAscii s) : IsAscii (c :: s) :=
  List.forall_mem_cons.mpr ⟨hc, hs⟩

theorem of_subset (ht : IsAscii t) (h : s ⊆ t) : IsAscii s := fun c hc => ht c (h hc)

theorem map {f : Char → Char} (hf : ∀ c, c.toNat < 128 → (f c).toNat < 128) (hs : IsAscii s) :
    IsAscii (s.map f) := by
  intro d hd
  obtain ⟨c, hc, rfl⟩ := List.mem_map.mp hd
  exact hf c (hs c hc)

theorem replicate {c : Char} (hc : c.toNat < 128) (n : Nat) : IsAscii (List.replicate n c) :=
  fun _ hd => List.eq_of_mem_replicate hd ▸ hc

theorem toDigits (n : Nat) : IsAscii (Nat.toDigits 10 n) := by
  intro c hc
  have hdigit : c.isDigit = true := Nat.isDigit_of_mem_toDigits (by decide) (by decide) hc
  exact ascii_of_isAlphanum (by rw [Char.isAlphanum, hdigit, Bool.or_true])

end IsAscii

/-! ### Forms -/

/-- A text of a form is a character of the first class, followed by characters of the second. -/
inductive HasForm (first later : Char → Bool) : List Char → Prop where
  | cons {c : Char} {rest : List Char} (hfirst : first c = true)
      (hlater : ∀ d ∈ rest, later d = true) : HasForm first later (c :: rest)

instance (first later : Char → Bool) (s : List Char) : Decidable (HasForm first later s) :=
  match s with
  | [] => isFalse fun h => nomatch h
  | c :: rest =>
    if h : first c = true ∧ rest.all later = true then
      isTrue (.cons h.1 (List.all_eq_true.mp h.2))
    else isFalse fun hform => h (by cases hform; exact ⟨‹_›, List.all_eq_true.mpr ‹_›⟩)

namespace HasForm

variable {first later first' later' : Char → Bool} {s t : List Char}

theorem of_head? {c : Char} (hhead : s.head? = some c) (hfirst : first c = true)
    (hlater : ∀ d ∈ s, later d = true) : HasForm first later s := by
  obtain ⟨rest, rfl⟩ := List.head?_eq_some_iff.mp hhead
  exact .cons hfirst fun d hd => hlater d (List.mem_cons_of_mem _ hd)

theorem exists_cons (h : HasForm first later s) :
    ∃ c rest, s = c :: rest ∧ first c = true ∧ ∀ d ∈ rest, later d = true := by
  cases h with
  | cons hfirst hlater => exact ⟨_, _, rfl, hfirst, hlater⟩

theorem append (hs : HasForm first later s) (ht : ∀ c ∈ t, later c = true) :
    HasForm first later (s ++ t) := by
  cases hs with
  | cons hfirst hlater =>
    refine .cons hfirst fun d hd => ?_
    rcases List.mem_append.mp hd with hd | hd
    · exact hlater d hd
    · exact ht d hd

theorem imp (hfirst : ∀ c, first c = true → first' c = true)
    (hlater : ∀ c, later c = true → later' c = true) (hs : HasForm first later s) :
    HasForm first' later' s := by
  cases hs with
  | cons hc hrest => exact .cons (hfirst _ hc) fun d hd => hlater d (hrest d hd)

/-- If the first class is part of the second, all characters are of the second. -/
theorem forall_mem (hs : HasForm first later s) (h : ∀ c, first c = true → later c = true) :
    ∀ c ∈ s, later c = true := by
  cases hs with
  | cons hc hrest => exact List.forall_mem_cons.mpr ⟨h _ hc, hrest⟩

end HasForm

/-- Whether a text has the form `[A-Za-z_][A-Za-z0-9_]*`. -/
def IsIdentifier (s : String) : Prop :=
  HasForm (fun c => c.isAlpha || c = '_') isWordChar s.toList

/-- Whether a text has the form `[A-Za-z][A-Za-z0-9_]*`. -/
def IsLetteredIdentifier (s : String) : Prop := HasForm Char.isAlpha isWordChar s.toList

instance (s : String) : Decidable (IsIdentifier s) := inferInstanceAs (Decidable (HasForm ..))

instance (s : String) : Decidable (IsLetteredIdentifier s) :=
  inferInstanceAs (Decidable (HasForm ..))

theorem IsIdentifier.isWordChar {s : String} (h : IsIdentifier s) :
    ∀ c ∈ s.toList, isWordChar c = true := by
  apply h.forall_mem
  intro c hc
  rcases (Bool.or_eq_true _ _).mp hc with hc | hc
  · exact isWordChar_of_isAlphanum (isAlphanum_of_isAlpha hc)
  · rw [Text.isWordChar, hc, Bool.or_true]

theorem IsLetteredIdentifier.isWordChar {s : String} (h : IsLetteredIdentifier s) :
    ∀ c ∈ s.toList, isWordChar c = true :=
  h.forall_mem fun _ hc => isWordChar_of_isAlphanum (isAlphanum_of_isAlpha hc)

end OvsdbModels.Text
