/-
  OvsdbModels/Proofs/Decimal.lean
  ===============================
  **Numbers in plain text.**

  Digits, a point, a minus sign and the letters of `NaN` and `inf`: a number in plain text is in ASCII.
  A number with fixed places has digits on both sides of its point.
-/
import OvsdbModels.Decimal.Layout
import OvsdbModels.Proofs.Text.Form

namespace OvsdbModels

namespace Decimal

open Text (IsAscii)

theorem ascii_significant (d : Digits) : IsAscii d.significant.1 := by
  refine (IsAscii.toDigits d.coefficient).of_subset fun c hc => ?_
  have hkept := List.mem_reverse.mp hc
  exact List.mem_reverse.mp ((List.dropWhile_sublist _).subset hkept)

theorem ascii_withPoint {digits : List Char} (h : IsAscii digits) (places : Nat) :
    IsAscii (withPoint digits places) := by
  unfold withPoint
  split
  · exact (h.of_subset (List.take_subset ..)).append
      (.cons (by decide) (h.of_subset (List.drop_subset ..)))
  · exact .cons (by decide) (.cons (by decide) ((IsAscii.replicate (by decide) _).append h))

theorem ascii_inFull {digits : List Char} (h : IsAscii digits) (exponent : Int) :
    IsAscii (inFull digits exponent) := by
  unfold inFull
  split
  · exact ascii_withPoint h _
  · exact h.append (.replicate (by decide) _)

/-- A sign only adds a minus. -/
theorem forall_mem_signed {p : Char → Prop} {body : List Char} (hminus : p '-')
    (h : ∀ c ∈ body, p c) (negative : Bool) : ∀ c ∈ (signed negative body).toList, p c := by
  unfold signed
  rw [String.toList_ofList]
  split
  · exact List.forall_mem_cons.mpr ⟨hminus, h⟩
  · exact h

theorem ascii_signed {body : List Char} (h : IsAscii body) (negative : Bool) :
    IsAscii (signed negative body).toList :=
  forall_mem_signed (by decide) h negative

theorem ascii_plain (x : Float) : IsAscii (plain x).toList := by
  unfold plain
  split
  · decide
  · exact ascii_signed (by decide) _
  · exact ascii_signed (by decide) _
  · exact ascii_signed (ascii_inFull (ascii_significant _) _) _

/-! ### Whole numbers and fixed places -/

/-- The digits of a number. -/
def IsDigits (s : List Char) : Prop := s ≠ [] ∧ ∀ c ∈ s, c.isDigit = true

theorem isDigits_toDigits (n : Nat) : IsDigits (Nat.toDigits 10 n) := by
  refine ⟨Nat.toDigits_ne_nil, ?_⟩
  intro c hc
  exact Nat.isDigit_of_mem_toDigits (by decide) (by decide) hc

theorem toString_eq_signed (n : Int) :
    toString n = signed (decide (n < 0)) (Nat.toDigits 10 n.natAbs) := by
  cases n with
  | ofNat m =>
    have hsign : ¬ Int.ofNat m < 0 := by simp
    have hdigits : toString (Int.ofNat m) = toString m := rfl
    rw [hdigits, Nat.toString_eq_ofList_toDigits, signed, decide_eq_false hsign]
    rfl
  | negSucc m =>
    have hdigits : toString (Int.negSucc m) = "-" ++ toString (m + 1) := rfl
    rw [hdigits, Nat.toString_eq_ofList_toDigits, signed, decide_eq_true (Int.negSucc_lt_zero m)]
    apply String.toList_injective
    simp

theorem isDigit_padded (width n : Nat) : ∀ c ∈ Text.padded width n, c.isDigit = true := by
  intro c hc
  rcases List.mem_append.mp hc with hzero | hdigit
  · rw [List.eq_of_mem_replicate hzero]
    decide
  · exact (isDigits_toDigits n).2 c hdigit

theorem le_length_padded (width n : Nat) : width ≤ (Text.padded width n).length := by
  unfold Text.padded
  simp only [List.length_append, List.length_replicate]
  omega

/-- A number padded beyond its places has digits before and behind the point. -/
theorem exists_fixedDigits (places n : Nat) : ∃ whole fraction,
    fixedDigits places n = whole ++ '.' :: fraction ∧ IsDigits whole ∧
      (∀ c ∈ fraction, c.isDigit = true) ∧ fraction.length = places := by
  have hlength : places < (Text.padded (places + 1) n).length := le_length_padded (places + 1) n
  have hdigits := isDigit_padded (places + 1) n
  unfold fixedDigits withPoint
  rw [if_pos hlength]
  generalize Text.padded (places + 1) n = digits at hlength hdigits
  refine ⟨_, _, rfl, ⟨?_, ?_⟩, ?_, ?_⟩
  · intro hnil
    simp only [List.take_eq_nil_iff] at hnil
    rcases hnil with hzero | rfl
    · omega
    · simp at hlength
  · exact fun c hc => hdigits c (List.mem_of_mem_take hc)
  · exact fun c hc => hdigits c (List.mem_of_mem_drop hc)
  · simp only [List.length_drop]
    omega

end Decimal

end OvsdbModels
