/-
  OvsdbModels/Proofs/Decimal/Finite.lean
  ======================================
  **Doubles that stay finite.**

  Rounding moves the exponent of a number up by as much as its significand is too long, and by one more
  if the significand rounds up to a power of two.  So a bound on the exponent (`ExponentAtMost`) goes
  through conversion, multiplication and division, and a double whose exponent is at most 971 is finite
  when it is put into its 64 bits.
-/
import Mathlib
import OvsdbModels.Decimal.Layout

namespace OvsdbModels.Decimal

open Float.Model (Format UnpackedFloat totalExponent)
open Float.Model.UnpackedFloat

/-! ### Exponents -/

/-- The largest exponent of a finite double, `2046 - 1075`. -/
def largestExponent : Int := 971

/-- A number that is zero, or finite with an exponent from -1074 up to a bound. -/
def ExponentAtMost (bound : Int) : UnpackedFloat → Prop
  | .zero _ => True
  | .finite _ _ q _ => -1074 ≤ q ∧ q ≤ bound
  | _ => False

instance (bound : Int) (u : UnpackedFloat) : Decidable (ExponentAtMost bound u) :=
  match u with
  | .zero _ => isTrue trivial
  | .finite _ _ q _ => inferInstanceAs (Decidable (-1074 ≤ q ∧ q ≤ bound))
  | .infinity _ => isFalse id
  | .notANumber => isFalse id

/-- A number that is at least `2^(bound + 52)`, with a significand of all its bits. -/
def ExponentAtLeast (bound : Int) : UnpackedFloat → Prop
  | .finite _ m q _ => 2 ^ 52 ≤ m ∧ bound ≤ q
  | _ => False

instance (bound : Int) (u : UnpackedFloat) : Decidable (ExponentAtLeast bound u) :=
  match u with
  | .finite _ m q _ => inferInstanceAs (Decidable (2 ^ 52 ≤ m ∧ bound ≤ q))
  | .zero _ => isFalse id
  | .infinity _ => isFalse id
  | .notANumber => isFalse id

theorem ExponentAtMost.mono {bound bound' : Int} {u : UnpackedFloat} (h : ExponentAtMost bound u)
    (hle : bound ≤ bound') : ExponentAtMost bound' u := by
  cases u with
  | zero => trivial
  | finite s m q hm => exact ⟨h.1, h.2.trans hle⟩
  | infinity => exact h.elim
  | notANumber => exact h.elim

theorem targetExponent_binary64 (n : Int) : Format.binary64.targetExponent n = max (n - 53) (-1074) :=
  rfl

/-! ### Rounding -/

theorem mantissa_shiftRight (em : ExtendedMantissa) (n : Nat) :
    (em >>> n).mantissa = em.mantissa / 2 ^ n := by
  show (Nat.repeat ExtendedMantissa.shiftRightOne n em).mantissa = _
  induction n with
  | zero => simp [Nat.repeat]
  | succ n ih =>
    rw [Nat.repeat, ExtendedMantissa.shiftRightOne, ih, Nat.div_div_eq_div_mul, pow_succ]

theorem roundedMantissa_le (em : ExtendedMantissa) : em.roundedMantissa ≤ em.mantissa + 1 := by
  unfold ExtendedMantissa.roundedMantissa Accuracy.roundToNearestEven
  split <;> omega

theorem mantissa_ofMantissaAndAccuracy (m : Nat) (accuracy : Accuracy) :
    (ExtendedMantissa.ofMantissaAndAccuracy m accuracy).mantissa = m := by
  unfold ExtendedMantissa.ofMantissaAndAccuracy
  split <;> rfl

theorem log2_le_of_lt {m n : Nat} (h : m < 2 ^ (n + 1)) : m.log2 ≤ n := by
  by_cases hm : m = 0
  · simp [hm]
  · exact Nat.lt_succ_iff.mp ((Nat.log2_lt hm).mpr h)

/-- Shifting to the target exponent gives the larger of the two exponents, and the significand is
divided by the difference. -/
theorem shiftToTargetExponent_eq (m : Nat) (q : Int) (accuracy : Accuracy) :
    (shiftToTargetExponent .binary64 m q accuracy).2 = max q (max (totalExponent m q - 53) (-1074)) ∧
    (shiftToTargetExponent .binary64 m q accuracy).1.mantissa =
      m / 2 ^ (max (totalExponent m q - 53) (-1074) - q).toNat := by
  unfold shiftToTargetExponent shiftToExponent
  rw [targetExponent_binary64]
  dsimp only
  rw [mantissa_shiftRight, mantissa_ofMantissaAndAccuracy]
  exact ⟨by omega, rfl⟩

/-- Rounding after a shift by `d` places gives at most `n - d` bits, or one more if it carries. -/
theorem log2_roundedMantissa_le {em : ExtendedMantissa} {m n d : Nat} (hm : m < 2 ^ n)
    (hem : em.mantissa = m / 2 ^ d) : em.roundedMantissa.log2 ≤ n - d := by
  have hshifted : em.mantissa < 2 ^ (n - d) := by
    rw [hem, Nat.div_lt_iff_lt_mul (Nat.two_pow_pos d), ← pow_add]
    exact hm.trans_le (Nat.pow_le_pow_right (by decide) (by omega))
  have hrounded := roundedMantissa_le em
  apply log2_le_of_lt
  rw [pow_succ]
  omega

/-- A significand of at most `n` bits is rounded to one of at most 53 bits, so the exponent rises by at
most `n - 52`. -/
theorem exponentAtMost_roundWithAccuracy (sign : Sign) {m n : Nat} {q bound : Int}
    (accuracy : Accuracy) (hm : m < 2 ^ n) (hq : q ≤ bound) (hn : n + q - 52 ≤ bound)
    (hmin : -1074 ≤ bound) :
    ExponentAtMost bound (roundWithAccuracy .binary64 sign m q accuracy) := by
  obtain ⟨hfirst, hmantissa⟩ := shiftToTargetExponent_eq m q accuracy
  have hlog : m.log2 ≤ n := log2_le_of_lt (hm.trans (Nat.pow_lt_pow_succ (by decide)))
  unfold roundWithAccuracy
  generalize shiftToTargetExponent .binary64 m q accuracy = shifted at hfirst hmantissa
  have hrounded := log2_roundedMantissa_le hm hmantissa
  obtain ⟨hsecond, -⟩ := shiftToTargetExponent_eq shifted.1.roundedMantissa shifted.2 .exact
  dsimp only
  split
  · trivial
  · unfold ExponentAtMost
    rw [hsecond]
    unfold totalExponent at hfirst hrounded ⊢
    omega

theorem exponentAtMost_round (sign : Sign) {m n : Nat} {q bound : Int} (hm : m < 2 ^ n)
    (hn : n + q - 52 ≤ bound) (hmin : -1074 ≤ bound) :
    ExponentAtMost bound (Float.Model.UnpackedFloat.round .binary64 sign m q) := by
  have hlog : m.log2 ≤ n := log2_le_of_lt (hm.trans (Nat.pow_lt_pow_succ (by decide)))
  unfold Float.Model.UnpackedFloat.round decreaseExponent totalExponent
  rw [targetExponent_binary64]
  dsimp only
  generalize hd : (q - max ((m.log2 + 1 + q : Int) - 53) (-1074)).toNat = d
  have hshifted : m <<< d < 2 ^ (n + d) := by
    rw [Nat.shiftLeft_eq, pow_add]
    exact (Nat.mul_lt_mul_right (Nat.two_pow_pos d)).mpr hm
  apply exponentAtMost_roundWithAccuracy sign .exact hshifted _ _ hmin
  · omega
  · omega

/-! ### Packing -/

/-- The eleven exponent bits of a double. -/
def exponentBits (bits : BitVec 64) : BitVec 11 := @unpackExponent .binary64 bits

theorem toNat_exponentBits (bits : BitVec 64) :
    (exponentBits bits).toNat = bits.toNat / leadingBit % 0x800 := by
  unfold exponentBits unpackExponent
  simp only [BitVec.toNat_cast, BitVec.extractLsb_toNat, Nat.shiftRight_eq_div_pow]
  rfl

theorem exponentBits_packComponents (sign : Sign) (exponent : BitVec 11) (m : BitVec 52) :
    exponentBits (packComponents .binary64 sign exponent m) = exponent :=
  @unpackExponent_packComponents .binary64 sign exponent m

theorem exponentAtMost_unpack {bits : BitVec 64} (h : exponentBits bits ≠ -1#11) :
    ExponentAtMost (max ((exponentBits bits).toNat : Int) 1 - 1075) (unpack .binary64 bits) := by
  have hnonzero : exponentBits bits ≠ 0#11 → (exponentBits bits).toNat ≠ 0 :=
    fun hne heq => hne (BitVec.eq_of_toNat_eq heq)
  unfold unpack
  dsimp only
  rw [← exponentBits, if_neg h]
  split
  · rename_i hzero
    split
    · trivial
    · rw [hzero]
      exact ⟨by decide, by decide⟩
  · rename_i hne
    have hpos := hnonzero hne
    have hbias : (Format.binary64.exponentBias : Int) + Format.binary64.mantissaBitsWithoutImplicit = 1075 := rfl
    unfold ExponentAtMost
    rw [hbias]
    omega

theorem exponentBits_pack_le {u : UnpackedFloat} {bound : Int} (h : ExponentAtMost bound u)
    (hbound : bound ≤ largestExponent) :
    ((exponentBits (pack .binary64 u)).toNat : Int) ≤ max (bound + 1075) 0 := by
  cases u with
  | zero s =>
    rw [pack, packedZero, exponentBits_packComponents]
    exact le_max_right _ _
  | finite s m q hm =>
    obtain ⟨hmin, hq⟩ := h
    have hbiased : q + Format.binary64.exponentBias + Format.binary64.mantissaBitsWithoutImplicit =
      q + 1075 := by show q + 1023 + 52 = _; omega
    unfold largestExponent at hbound
    rw [pack]
    dsimp only
    rw [hbiased, if_neg (by show ¬ 2048 ≤ _; omega)]
    split
    · rw [exponentBits_packComponents, BitVec.toNat_ofNat]
      omega
    · rw [exponentBits_packComponents]
      exact le_max_right _ _
  | infinity => exact h.elim
  | notANumber => exact h.elim

/-- A number of small exponent keeps it when it is put into its bits. -/
theorem exponentAtMost_unpack_pack {u : UnpackedFloat} {bound : Int} (h : ExponentAtMost bound u)
    (hmin : -1074 ≤ bound) (hbound : bound ≤ largestExponent) :
    ExponentAtMost bound (unpack .binary64 (pack .binary64 u)) := by
  have hle := exponentBits_pack_le h hbound
  unfold largestExponent at hbound
  have hne : exponentBits (pack .binary64 u) ≠ -1#11 := by
    intro heq
    have hall : (-1#11).toNat = 2047 := rfl
    rw [heq, hall] at hle
    omega
  exact (exponentAtMost_unpack hne).mono (by omega)

/-- A number of any exponent becomes finite or infinite. -/
theorem exponentAtMost_or_isInf_unpack_pack {u : UnpackedFloat} {bound : Int}
    (h : ExponentAtMost bound u) :
    ExponentAtMost largestExponent (unpack .binary64 (pack .binary64 u)) ∨
      (unpack .binary64 (pack .binary64 u)).isInf = true := by
  cases u with
  | zero s => exact .inl (exponentAtMost_unpack_pack (u := .zero s) trivial (by decide) le_rfl)
  | finite s m q hm =>
    by_cases hq : q ≤ largestExponent
    · exact .inl (exponentAtMost_unpack_pack (u := .finite s m q hm) ⟨h.1, hq⟩ (by decide) le_rfl)
    · right
      have hbiased : q + Format.binary64.exponentBias + Format.binary64.mantissaBitsWithoutImplicit =
        q + 1075 := by show q + 1023 + 52 = _; omega
      unfold largestExponent at hq
      rw [pack]
      dsimp only
      rw [hbiased, if_pos (by show 2048 ≤ _; omega)]
      cases s <;> rfl
  | infinity => exact h.elim
  | notANumber => exact h.elim

/-! ### Operations -/

/-- A double whose exponent is at most a bound. -/
def IsBelow (bound : Int) (x : Float) : Prop := ExponentAtMost bound x.toModel.unpack

instance (bound : Int) (x : Float) : Decidable (IsBelow bound x) :=
  inferInstanceAs (Decidable (ExponentAtMost bound x.toModel.unpack))

/-- A double that is at least `2^(bound + 52)`. -/
structure IsAtLeast (bound : Int) (x : Float) : Prop where
  unpack : ExponentAtLeast bound x.toModel.unpack

instance (bound : Int) (x : Float) : Decidable (IsAtLeast bound x) :=
  decidable_of_iff (ExponentAtLeast bound x.toModel.unpack) ⟨.mk, IsAtLeast.unpack⟩

theorem IsBelow.mono {bound bound' : Int} {x : Float} (h : IsBelow bound x) (hle : bound ≤ bound') :
    IsBelow bound' x :=
  ExponentAtMost.mono h hle

theorem isBelow_ofModel_pack {u : UnpackedFloat} {bound : Int} (h : ExponentAtMost bound u)
    (hmin : -1074 ≤ bound) (hbound : bound ≤ largestExponent) :
    IsBelow bound (.ofModel (.pack u)) :=
  exponentAtMost_unpack_pack h hmin hbound

theorem IsBelow.neg {bound : Int} {x : Float} (h : IsBelow bound x) (hmin : -1074 ≤ bound)
    (hbound : bound ≤ largestExponent) : IsBelow bound (-x) := by
  apply isBelow_ofModel_pack _ hmin hbound
  unfold IsBelow at h
  cases hunpack : x.toModel.unpack with
  | zero s => trivial
  | finite s m q hm =>
    rw [hunpack] at h
    exact h
  | infinity => simp [hunpack, ExponentAtMost] at h
  | notANumber => simp [hunpack, ExponentAtMost] at h

/-- Every 64-bit number is below `2^65`. -/
theorem isBelow_toFloat (n : UInt64) : IsBelow 12 n.toFloat := by
  apply isBelow_ofModel_pack _ (by decide) (by decide)
  unfold ofUInt64 ofNat ofInt UnpackedFloat.normalize
  split
  · rename_i hlt
    rw [compare_lt_iff_lt] at hlt
    omega
  · trivial
  · exact exponentAtMost_round _ n.toNat_lt (by decide) (by decide)

theorem mantissa_lt_of_unpack {bits : BitVec 64} {s : Sign} {m : Nat} {q : Int} {hm : 0 < m}
    (h : unpack .binary64 bits = .finite s m q hm) : m < 2 ^ 53 := by
  unfold unpack at h
  dsimp only at h
  split at h
  · split at h
    · cases h
    · cases h
  · split at h
    · split at h
      · cases h
      · have hfraction : (@unpackMantissa .binary64 bits).toNat < 2 ^ 52 :=
          (@unpackMantissa .binary64 bits).isLt
        simp only [finite.injEq] at h
        omega
    · have hfraction : (1#1 ++ @unpackMantissa .binary64 bits).toNat < 2 ^ 53 :=
        (1#1 ++ @unpackMantissa .binary64 bits).isLt
      simp only [finite.injEq] at h
      omega

/-- The quotient of two significands of 53 bits has one bit more than it was shifted by. -/
theorem exponentAtMost_divCore (sign : Sign) {m₁ m₂ : Nat} {q₁ q₂ bound : Int} (hm₁ : m₁ < 2 ^ 53)
    (hm₂ : 2 ^ 52 ≤ m₂) (hq : q₁ - q₂ ≤ bound) (hmin : -1074 ≤ bound) :
    let (m, q, accuracy) := divCore .binary64 m₁ q₁ m₂ q₂
    ExponentAtMost bound (roundWithAccuracy .binary64 sign m q accuracy) := by
  unfold divCore
  dsimp only
  generalize hq' : min (q₁ - q₂)
    (Format.binary64.targetExponent (totalExponent m₁ q₁ - totalExponent m₂ q₂)) = q
  have hle : q ≤ q₁ - q₂ := hq' ▸ min_le_left _ _
  have hquotient : m₁ <<< (q₁ - q₂ - q).toNat / m₂ < 2 ^ ((q₁ - q₂ - q).toNat + 1) := by
    rw [Nat.shiftLeft_eq, Nat.div_lt_iff_lt_mul (by omega)]
    calc m₁ * 2 ^ (q₁ - q₂ - q).toNat
        < 2 ^ 53 * 2 ^ (q₁ - q₂ - q).toNat := (Nat.mul_lt_mul_right (Nat.two_pow_pos _)).mpr hm₁
      _ = 2 ^ ((q₁ - q₂ - q).toNat + 1) * 2 ^ 52 := by ring
      _ ≤ 2 ^ ((q₁ - q₂ - q).toNat + 1) * m₂ := Nat.mul_le_mul_left _ hm₂
  apply exponentAtMost_roundWithAccuracy sign _ hquotient _ _ hmin
  · omega
  · omega

theorem IsBelow.div {bound bound' q : Int} {x y : Float} (hx : IsBelow bound x)
    (hy : IsAtLeast q y) (hle : bound - q ≤ bound') (hmin : -1074 ≤ bound')
    (hmax : bound' ≤ largestExponent) : IsBelow bound' (x / y) := by
  apply isBelow_ofModel_pack _ hmin hmax
  have hy := hy.unpack
  unfold IsBelow at hx
  cases hunpack : y.toModel.unpack with
  | finite s₂ m₂ q₂ hm₂ =>
    rw [hunpack] at hy
    cases hunpack' : x.toModel.unpack with
    | zero s => trivial
    | finite s₁ m₁ q₁ hm₁ =>
      rw [hunpack'] at hx
      have hm : m₁ < 2 ^ 53 := mantissa_lt_of_unpack hunpack'
      have hq : q₁ - q₂ ≤ bound' := by
        have hq₁ := hx.2
        have hq₂ := hy.2
        omega
      exact exponentAtMost_divCore _ hm hy.1 hq hmin
    | infinity => simp [hunpack', ExponentAtMost] at hx
    | notANumber => simp [hunpack', ExponentAtMost] at hx
  | zero => simp [hunpack, ExponentAtLeast] at hy
  | infinity => simp [hunpack, ExponentAtLeast] at hy
  | notANumber => simp [hunpack, ExponentAtLeast] at hy

/-- A product of finite doubles is finite or infinite, and never nothing. -/
theorem IsBelow.mul {q : Int} {x y : Float} (hx : IsBelow largestExponent x) (hy : IsAtLeast q y) :
    IsBelow largestExponent (x * y) ∨ (x * y).isInf = true := by
  suffices h : ∃ bound, ExponentAtMost bound
      (Float.Model.UnpackedFloat.mul .binary64 x.toModel.unpack y.toModel.unpack) by
    obtain ⟨bound, hbound⟩ := h
    exact exponentAtMost_or_isInf_unpack_pack hbound
  have hy := hy.unpack
  unfold IsBelow at hx
  cases hunpack : y.toModel.unpack with
  | finite s₂ m₂ q₂ hm₂ =>
    cases hunpack' : x.toModel.unpack with
    | zero s => exact ⟨0, trivial⟩
    | finite s₁ m₁ q₁ hm₁ =>
      have hm : m₁ * m₂ < 2 ^ (m₁ * m₂) := Nat.lt_two_pow_self
      refine ⟨max (↑(m₁ * m₂) + (q₁ + q₂)) (-1074), ?_⟩
      apply exponentAtMost_roundWithAccuracy _ .exact hm
      · omega
      · omega
      · omega
    | infinity => simp [hunpack', ExponentAtMost] at hx
    | notANumber => simp [hunpack', ExponentAtMost] at hx
  | zero => simp [hunpack, ExponentAtLeast] at hy
  | infinity => simp [hunpack, ExponentAtLeast] at hy
  | notANumber => simp [hunpack, ExponentAtLeast] at hy

/-! ### Finite doubles -/

/-- A double that is a number. -/
def IsFinite (x : Float) : Prop := ∃ negative m q, Binary.ofFloat x = .finite negative m q

theorem exponentBits_ne_of_unpack {bits : BitVec 64} {bound : Int}
    (h : ExponentAtMost bound (unpack .binary64 bits)) : exponentBits bits ≠ -1#11 := by
  intro heq
  unfold unpack at h
  dsimp only at h
  rw [← exponentBits, if_pos heq] at h
  split at h
  · exact h
  · exact h

theorem IsBelow.isFinite {bound : Int} {x : Float} (h : IsBelow bound x) : IsFinite x := by
  have hexponent : x.toBits.toNat / leadingBit % 0x800 ≠ 2047 := by
    rw [← UInt64.toNat_toBitVec, ← toNat_exponentBits]
    exact fun heq => exponentBits_ne_of_unpack h (BitVec.eq_of_toNat_eq heq)
  unfold IsFinite Binary.ofFloat
  dsimp only
  rw [if_neg hexponent]
  split
  · exact ⟨_, _, _, rfl⟩
  · exact ⟨_, _, _, rfl⟩

end OvsdbModels.Decimal
