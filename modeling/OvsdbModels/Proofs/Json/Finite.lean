/-
  OvsdbModels/Proofs/Json/Finite.lean
  ===================================
  **Numbers of a document are finite.**

  A significand has 64 bits, so it stays far below the largest double however often it is divided, and
  a product that overflows is refused.  So no document holds an infinity, and none holds a double that
  is no number.
-/
import OvsdbModels.Proofs.Decimal.Finite
import OvsdbModels.Proofs.Json.Ensures

namespace OvsdbModels.Json

open Decimal (IsFinite IsBelow IsAtLeast largestExponent)

/-! ### Scaling -/

theorem isAtLeast_powerOfTen {n : Nat} (h : n < 309) : IsAtLeast (-52) (powerOfTen n) := by
  have hall : ∀ n < 309, IsAtLeast (-52) (powerOfTen n) := by decide +kernel
  exact hall n h

theorem isAtLeast_largest : IsAtLeast 0 (powerOfTen 308) := by decide +kernel

theorem isBelow_shrink {x : Float} (h : IsBelow 12 x) (n : Nat) : IsBelow 64 (shrink x n) := by
  induction x, n using shrink.induct with
  | case1 x n hle =>
    rw [shrink, if_pos hle]
    exact h.div (isAtLeast_powerOfTen (Nat.lt_succ_of_le hle)) (by decide) (by decide) (by decide)
  | case2 x n hlt hzero =>
    rw [shrink, if_neg hlt, if_pos hzero]
    exact h.mono (by decide)
  | case3 x n hlt hzero ih =>
    rw [shrink, if_neg hlt, if_neg hzero]
    have hnext : IsBelow 12 (x / powerOfTen 308) :=
      IsBelow.div h isAtLeast_largest (by decide) (by decide) (by decide)
    exact ih hnext

theorem isFinite_of_scale? {significand : Nat} {exponent : Int} {x : Float}
    (h : scale? significand exponent = some x) : IsBelow largestExponent x := by
  have hsignificand := Decimal.isBelow_toFloat significand.toUInt64
  unfold scale? at h
  dsimp only at h
  split at h
  · obtain rfl := Option.some.inj h
    exact (isBelow_shrink hsignificand _).mono (by decide)
  · split at h
    · split at h
      · obtain rfl := Option.some.inj h
        exact hsignificand.mono (by decide)
      · exact nomatch h
    · split at h
      · exact nomatch h
      · rename_i hnonneg hle hfinite
        obtain rfl := Option.some.inj h
        have hpower : IsAtLeast (-52) (powerOfTen exponent.natAbs) :=
          isAtLeast_powerOfTen (by omega)
        exact ((hsignificand.mono (by decide)).mul hpower).resolve_right hfinite

/-! ### Numbers -/

/-- A number that is a finite double if it is a double. -/
def Number.IsFinite : Number → Prop
  | .whole _ => True
  | .real x => Decimal.IsFinite x

/-- A number that is a double, and a finite one. -/
def Number.IsFiniteReal : Number → Prop
  | .whole _ => False
  | .real x => Decimal.IsFinite x

theorem Number.IsFiniteReal.isFinite : ∀ n : Number, n.IsFiniteReal → n.IsFinite
  | .whole _, _ => trivial
  | .real _, h => h

theorem isFinite_withSign {x : Float} (h : IsBelow largestExponent x) (negative : Bool) :
    IsFinite (withSign negative x) := by
  cases negative with
  | false => exact h.isFinite
  | true => exact (h.neg (by decide) le_rfl).isFinite

theorem ensures_realNumber (negative : Bool) (significand : Nat) (exponent : Int) :
    Ensures (realNumber negative significand exponent) Number.IsFiniteReal := by
  unfold realNumber
  split
  · rename_i x hscale
    exact .pure (isFinite_withSign (isFinite_of_scale? hscale) negative)
  · exact (fails_failHere _).ensures _

theorem ensures_exponentPart (negative : Bool) (significand : Nat) (exponent : Int) :
    Ensures (exponentPart negative significand exponent) Number.IsFiniteReal := by
  have hzero : IsBelow largestExponent 0.0 := by decide +kernel
  refine .after fun _ => .after fun down => .after fun next => ?_
  split
  · exact (fails_failHere _).ensures _
  · split
    · refine .after fun n => .after fun more => ?_
      split
      · refine .after fun _ => ?_
        split
        · exact (fails_failHere _).ensures _
        · exact .after fun _ => .pure (isFinite_withSign hzero negative)
      · exact ensures_realNumber _ _ _
    · exact (fails_failAhead _ _).ensures _

theorem ensures_afterDigits (negative : Bool) (significand : Nat) (exponent : Int) :
    Ensures (afterDigits negative significand exponent) Number.IsFiniteReal := by
  refine .after fun next => ?_
  split
  · exact ensures_exponentPart _ _ _
  · exact ensures_exponentPart _ _ _
  · exact ensures_realNumber _ _ _

theorem ensures_fractionPart (negative : Bool) (significand : Nat) (exponent : Int) :
    Ensures (fractionPart negative significand exponent) Number.IsFiniteReal := by
  refine .after fun _ => .after fun taken => .after fun more => ?_
  split
  · exact .after fun _ => ensures_afterDigits _ _ _
  · split
    · refine .after fun next => ?_
      split
      · exact (fails_failNext _).ensures _
      · exact (fails_failNext _).ensures _
    · exact ensures_afterDigits _ _ _

theorem isFinite_wholeNumber (negative : Bool) (n : Nat) :
    (wholeNumber negative n).IsFinite := by
  unfold wholeNumber
  split
  · split
    · exact ((Decimal.isBelow_toFloat _).neg (by decide) (by decide)).isFinite
    · trivial
  · trivial

theorem ensures_afterWhole (negative : Bool) (n : Nat) (surplus : Option Nat) :
    Ensures (afterWhole negative n surplus) Number.IsFinite := by
  refine .after fun next => ?_
  split
  · exact (ensures_fractionPart _ _ _).imp Number.IsFiniteReal.isFinite
  · exact (ensures_exponentPart _ _ _).imp Number.IsFiniteReal.isFinite
  · exact (ensures_exponentPart _ _ _).imp Number.IsFiniteReal.isFinite
  · exact .pure (isFinite_wholeNumber negative n)
  · exact (ensures_realNumber _ _ _).imp Number.IsFiniteReal.isFinite

theorem ensures_unsignedNumber (negative : Bool) :
    Ensures (unsignedNumber negative) Number.IsFinite := by
  refine .after fun next => ?_
  split
  · exact (fails_failHere _).ensures _
  · refine .after fun _ => .after fun more => ?_
    split
    · exact (fails_failNext _).ensures _
    · exact ensures_afterWhole _ _ _
  · split
    · refine .after fun taken => .after fun more => ?_
      split
      · exact .after fun surplus => ensures_afterWhole _ _ _
      · exact ensures_afterWhole _ _ _
    · exact (fails_failAhead _ _).ensures _

theorem ensures_numeral : Ensures numeral Number.IsFinite := by
  refine .after fun next => ?_
  split
  · exact .after fun _ => ensures_unsignedNumber true
  · exact ensures_unsignedNumber false

theorem isFinite_toFloat {n : Number} (h : n.IsFinite) : IsFinite n.toFloat := by
  cases n with
  | real x => exact h
  | whole n =>
    have hsize := Decimal.isBelow_toFloat n.natAbs.toUInt64
    simp only [Number.toFloat]
    split
    · exact (hsize.neg (by decide) (by decide)).isFinite
    · exact hsize.isFinite

/-! ### Values -/

/-- A value that holds no doubles but finite ones. -/
inductive Value.IsFinite : Value → Prop where
  | null : IsFinite .null
  | boolean (b : Bool) : IsFinite (.boolean b)
  | number {n : Number} (h : n.IsFinite) : IsFinite (.number n)
  | string (s : String) : IsFinite (.string s)
  | array {items : List Value} (h : ∀ v ∈ items, IsFinite v) : IsFinite (.array items)
  | object {members : List (String × Value)} (h : ∀ m ∈ members, IsFinite m.2) :
      IsFinite (.object members)

theorem ensures_value (depth : Nat) : Ensures (value depth) Value.IsFinite := by
  induction depth with
  | zero =>
    unfold value
    refine .after fun next => ?_
    split
    · exact (fails_failNext _).ensures _
    · exact .after fun _ => .pure .null
    · exact .after fun _ => .pure (.boolean true)
    · exact .after fun _ => .pure (.boolean false)
    · exact .after fun s => .pure (.string s)
    · exact (fails_failNext _).ensures _
    · exact (fails_failNext _).ensures _
    · split
      · exact .map ensures_numeral fun n hn => .number hn
      · exact (fails_failNext _).ensures _
  | succ depth ih =>
    unfold value
    refine .after fun next => ?_
    split
    · exact (fails_failNext _).ensures _
    · exact .after fun _ => .pure .null
    · exact .after fun _ => .pure (.boolean true)
    · exact .after fun _ => .pure (.boolean false)
    · exact .after fun s => .pure (.string s)
    · exact .after fun _ => .map (.enclosed (.items ih)) fun items h => .array h
    · exact .after fun _ => .map (.enclosed (.memberList ih)) fun members h => .object h
    · split
      · exact .map ensures_numeral fun n hn => .number hn
      · exact (fails_failNext _).ensures _

end OvsdbModels.Json
