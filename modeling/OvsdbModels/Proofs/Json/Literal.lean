/-
  OvsdbModels/Proofs/Json/Literal.lean
  ====================================
  **Integers among the numbers of a document.**

  A number is read as whole exactly if it is written without point and exponent, is not a zero with
  a minus, and fits a 64-bit integer, signed or unsigned (`Numeral.number?_eq_whole_iff`).  Any other
  number is a double: one that has digits beyond the significand is never cut off to an integer.
-/
import OvsdbModels.Proofs.Json.Container
import OvsdbModels.Proofs.Json.Finite

namespace OvsdbModels.Json

/-! ### Integer literals -/

namespace Numeral

/-- The digits before the point, as a number. -/
def magnitude (n : Numeral) : Nat := Text.decimalNumber n.whole.text

def signed (n : Numeral) : Int := if n.negative then -n.magnitude else n.magnitude

/-- The integer that a literal without point and exponent stands for. -/
def integer? (n : Numeral) : Option Int :=
  if n.fraction.isNone && n.exponent.isNone then some n.signed else none

/-- The number that a literal is read as; nothing if it is out of range. -/
def number? (n : Numeral) : Option Number := run numeral n.text

/-- Whether a literal is a zero with a minus. -/
def IsNegativeZero (n : Numeral) : Prop := n.negative = true ∧ n.integer? = some 0

theorem reads_number? (n : Numeral) {rest : List Char} (h : Stops rest) :
    Reads numeral n.text rest n.number? := by
  obtain ⟨o, hread⟩ := settles_numeral n
  rw [number?, (hread [] stops_nil).run_eq]
  exact hread rest h

end Numeral

/-! ### Digits within a limit -/

/-- The number that digits stand for behind those of `n`. -/
def numberFrom (n : Nat) (s : List Char) : Nat :=
  s.foldl (fun n c => 10 * n + Text.digitValue c) n

theorem numberFrom_cons (n : Nat) (c : Char) (s : List Char) :
    numberFrom n (c :: s) = numberFrom (10 * n + Text.digitValue c) s := by
  rw [numberFrom, List.foldl_cons, numberFrom]

theorem le_numberFrom (n : Nat) (s : List Char) : n ≤ numberFrom n s := by
  induction s generalizing n with
  | nil => exact Nat.le_refl n
  | cons c s ih =>
    have hnext := ih (10 * n + Text.digitValue c)
    rw [numberFrom_cons]
    omega

section Digits

variable {limit n : Nat} {s rest : List Char} (hs : ∀ c ∈ s, c.isDigit = true)
include hs

/-- Digits that stay within the limit are all taken. -/
theorem takeDigits_of_le (hrest : NoDigit rest) (hle : numberFrom n s ≤ limit) :
    takeDigits limit n (s ++ rest) = (numberFrom n s, s.length, rest) := by
  induction s generalizing n with
  | nil =>
    cases rest with
    | nil => rfl
    | cons c rest =>
      have hstop : ¬ (c.isDigit = true ∧ 10 * n + Text.digitValue c ≤ limit) := by
        simp [hrest c rfl]
      rw [List.nil_append, takeDigits, if_neg hstop]
      rfl
  | cons c s ih =>
    obtain ⟨hc, hs⟩ := List.forall_mem_cons.mp hs
    rw [numberFrom_cons] at hle
    have hfits : 10 * n + Text.digitValue c ≤ limit := (le_numberFrom _ s).trans hle
    rw [List.cons_append, takeDigits, if_pos ⟨hc, hfits⟩, ih hs hle]
    rfl

/-- Of digits that pass the limit some are left. -/
theorem exists_takeDigits_of_lt (hn : n ≤ limit) (hlt : limit < numberFrom n s) :
    ∃ n' taken c left, s = taken ++ c :: left ∧ ∀ rest,
      takeDigits limit n (s ++ rest) = (n', taken.length, c :: left ++ rest) := by
  induction s generalizing n with
  | nil => exact absurd hlt (Nat.not_lt.mpr hn)
  | cons c s ih =>
    obtain ⟨hc, hs⟩ := List.forall_mem_cons.mp hs
    by_cases hfits : 10 * n + Text.digitValue c ≤ limit
    · obtain ⟨n', taken, d, left, rfl, htake⟩ := ih hs hfits hlt
      refine ⟨n', c :: taken, d, left, rfl, fun rest => ?_⟩
      rw [List.cons_append, takeDigits, if_pos ⟨hc, hfits⟩, htake rest]
      rfl
    · refine ⟨n, [], c, s, rfl, fun rest => ?_⟩
      rw [List.cons_append, takeDigits, if_neg fun h => hfits h.2]
      rfl

theorem reads_digits_of_le (hrest : NoDigit rest) (hle : numberFrom n s ≤ limit) :
    Reads (digits limit n) s rest (some (numberFrom n s, s.length)) := by
  intro offset fuel _
  refine ⟨offset + s.length, ?_⟩
  simp only [digits, takeDigits_of_le hs hrest hle]

theorem exists_reads_digits_of_lt (hn : n ≤ limit) (hlt : limit < numberFrom n s) :
    ∃ n' taken c left, s = taken ++ c :: left ∧ ∀ rest,
      Reads (digits limit n) taken (c :: left ++ rest) (some (n', taken.length)) := by
  obtain ⟨n', taken, c, left, rfl, htake⟩ := exists_takeDigits_of_lt hs hn hlt
  refine ⟨n', taken, c, left, rfl, fun rest offset fuel _ => ⟨offset + taken.length, ?_⟩⟩
  have htake := htake rest
  rw [List.append_assoc] at htake
  simp only [digits, htake]

end Digits

/-! ### Whole digits -/

section Whole

variable {negative : Bool} {text rest : List Char} {o : Option Number}

theorem reads_unsignedNumber_nonzero {c : Char} (hdigit : c.isDigit = true) (hzero : c ≠ '0')
    (h : Reads (do
      let (n, _) ← digits maxSignificand 0
      if ← atDigit then
        let surplus ← passDigits
        afterWhole negative n (some surplus)
      else afterWhole negative n none) (c :: text) rest o) :
    Reads (unsignedNumber negative) (c :: text) rest o := by
  refine Reads.peek_bind ?_
  split
  · rename_i heq
    exact nomatch heq
  · rename_i heq
    exact absurd (Option.some.inj heq) hzero
  · rename_i heq
    obtain rfl := Option.some.inj heq
    rw [if_pos hdigit]
    exact h

theorem reads_unsignedNumber_of_le (n : Numeral) (htext : NoDigit (text ++ rest))
    (hle : n.magnitude ≤ maxSignificand)
    (h : Reads (afterWhole negative n.magnitude none) text rest o) :
    Reads (unsignedNumber negative) (n.whole.text ++ text) rest o := by
  obtain ⟨c, ds, hds, hc⟩ := n.whole.exists_cons
  by_cases hzero : c = '0'
  · subst hzero
    have hwhole : n.whole.text = ['0'] := n.zero (by rw [hds]; rfl)
    have hmagnitude : n.magnitude = 0 := by
      rw [Numeral.magnitude, hwhole]
      rfl
    rw [hwhole, List.singleton_append]
    refine Reads.peek_bind (Reads.advance_bind (Reads.atDigit_bind ?_))
    rw [htext.any_isDigit]
    rwa [hmagnitude] at h
  · have hdigits := reads_digits_of_le (n := 0) n.whole.digits htext hle
    rw [hds, List.cons_append]
    refine reads_unsignedNumber_nonzero hc hzero ?_
    rw [← List.cons_append, ← hds]
    refine hdigits.bind_some (Reads.atDigit_bind ?_)
    rw [htext.any_isDigit]
    exact h

theorem exists_reads_unsignedNumber_of_lt (n : Numeral) (hlt : maxSignificand < n.magnitude) :
    ∃ n' surplus, ∀ text rest o, NoDigit (text ++ rest) →
      Reads (afterWhole negative n' (some surplus)) text rest o →
        Reads (unsignedNumber negative) (n.whole.text ++ text) rest o := by
  obtain ⟨c, ds, hds, hc⟩ := n.whole.exists_cons
  have hzero : c ≠ '0' := by
    rintro rfl
    have hwhole : n.whole.text = ['0'] := n.zero (by rw [hds]; rfl)
    rw [Numeral.magnitude, hwhole] at hlt
    exact absurd hlt (by decide)
  have hlt : maxSignificand < numberFrom 0 n.whole.text := hlt
  obtain ⟨n', taken, d, left, hsplit, hdigits⟩ :=
    exists_reads_digits_of_lt n.whole.digits (Nat.zero_le _) hlt
  have hleft : ∀ e ∈ d :: left, e.isDigit = true :=
    fun e he => n.whole.digits e (hsplit ▸ List.mem_append_right taken he)
  refine ⟨n', (d :: left).length, fun text rest o htext h => ?_⟩
  rw [hds, List.cons_append]
  refine reads_unsignedNumber_nonzero hc hzero ?_
  rw [← List.cons_append, ← hds, hsplit, List.append_assoc]
  have htaken := hdigits (text ++ rest)
  rw [← List.append_assoc] at htaken
  refine htaken.bind_some (Reads.atDigit_bind ?_)
  have hmore : (d :: left ++ text ++ rest).head?.any Char.isDigit = true :=
    hleft d List.mem_cons_self
  rw [hmore]
  exact (reads_passDigits hleft htext).bind_some h

end Whole

/-! ### What a literal is read as -/

theorem Reads.of_ensures {α : Type} {r : Reader α} {p : α → Prop} {text rest : List Char} {a : α}
    (h : Reads r text rest (some a)) (hr : Ensures r p) : p a := by
  obtain ⟨offset, hread⟩ := h 0 _ (Nat.le_refl _)
  exact hr _ a _ hread

/-- A number that has a fraction, an exponent or surplus digits is a double. -/
theorem ensures_afterWhole_some (negative : Bool) (n surplus : Nat) :
    Ensures (afterWhole negative n (some surplus)) Number.IsFiniteReal := by
  refine .after fun next => ?_
  split
  · exact ensures_fractionPart _ _ _
  · exact ensures_exponentPart _ _ _
  · exact ensures_exponentPart _ _ _
  · rename_i heq
    exact nomatch heq
  · exact ensures_realNumber _ _ _

/-- In front of a point or an exponent, no surplus digits are as good as none. -/
theorem afterWhole_none_eq {negative : Bool} {n : Nat} {c : Char} {s : List Char}
    (hc : c ∈ ['.', 'e', 'E']) (offset fuel : Nat) :
    afterWhole negative n none ⟨c :: s, offset, fuel⟩ =
      afterWhole negative n (some 0) ⟨c :: s, offset, fuel⟩ := by
  have hpeek : peek ⟨c :: s, offset, fuel⟩ = .ok (some c) ⟨c :: s, offset, fuel⟩ := rfl
  rw [afterWhole, afterWhole, bind_of_ok hpeek, bind_of_ok hpeek]
  simp only [List.mem_cons, List.not_mem_nil, or_false] at hc
  rcases hc with rfl | rfl | rfl <;> rfl

namespace Numeral

variable {n : Numeral}

theorem number?_of_unsigned {o : Option Number}
    (h : Reads (unsignedNumber n.negative)
      (n.whole.text ++ (fractionText n.fraction ++ exponentText n.exponent)) [] o) :
    n.number? = o := by
  refine Reads.run_eq ?_
  unfold numeral text
  generalize n.negative = negative at h ⊢
  cases negative with
  | true => exact Reads.peek_bind (Reads.advance_bind h)
  | false =>
    obtain ⟨c, ds, hds, hc⟩ := n.whole.exists_cons
    refine Reads.peek_bind_head (show _ = some c by rw [hds]; rfl) ?_
    split
    · rename_i heq
      exact absurd hc (Option.some.inj heq ▸ by decide)
    · exact h

/-- A literal without point and exponent, of which the digits fit the significand. -/
theorem number?_of_le (hfraction : n.fraction = none) (hexponent : n.exponent = none)
    (hle : n.magnitude ≤ maxSignificand) :
    n.number? = some (wholeNumber n.negative n.magnitude) := by
  refine number?_of_unsigned (reads_unsignedNumber_of_le n ?_ hle ?_)
  · rw [List.append_assoc]
    exact noDigit_fractionText _ _ stops_nil
  · rw [hfraction, hexponent]
    exact Reads.peek_bind_head rfl (Reads.pure _ _)

/-- Any other literal is a double. -/
theorem isFiniteReal_of_number? {number : Number} (h : n.number? = some number)
    (hother : n.fraction ≠ none ∨ n.exponent ≠ none ∨ maxSignificand < n.magnitude) :
    number.IsFiniteReal := by
  have htail : NoDigit (fractionText n.fraction ++ exponentText n.exponent ++ []) := by
    rw [List.append_assoc]
    exact noDigit_fractionText n.fraction n.exponent stops_nil
  by_cases hlt : maxSignificand < n.magnitude
  · obtain ⟨n', surplus, hread⟩ := exists_reads_unsignedNumber_of_lt n hlt
    obtain ⟨o, hafter⟩ :=
      settles_afterWhole n.negative n' (some surplus) n.fraction n.exponent
    have hafter := hafter [] stops_nil
    have ho := number?_of_unsigned (hread _ _ _ htail hafter)
    rw [ho.symm.trans h] at hafter
    exact hafter.of_ensures (ensures_afterWhole_some _ _ _)
  · obtain ⟨o, hafter⟩ := settles_afterWhole n.negative n.magnitude none n.fraction n.exponent
    have hafter := hafter [] stops_nil
    have ho := number?_of_unsigned
      (reads_unsignedNumber_of_le n htail (Nat.not_lt.mp hlt) hafter)
    rw [ho.symm.trans h] at hafter
    have hhead : ∃ c ∈ ['.', 'e', 'E'], ∃ s,
        fractionText n.fraction ++ exponentText n.exponent = c :: s := by
      rcases hother with hfraction | hexponent | hlt'
      · obtain ⟨d, hd⟩ := Option.ne_none_iff_exists'.mp hfraction
        exact ⟨'.', by decide, _, by rw [hd]; rfl⟩
      · obtain ⟨e, he⟩ := Option.ne_none_iff_exists'.mp hexponent
        cases hfraction : n.fraction with
        | some d => exact ⟨'.', by decide, _, rfl⟩
        | none => exact ⟨if e.upper then 'E' else 'e', by split <;> decide, _, by rw [he]; rfl⟩
      · exact absurd hlt' hlt
    obtain ⟨c, hc, s, htext⟩ := hhead
    rw [htext] at hafter
    have hsurplus : Reads (afterWhole n.negative n.magnitude (some 0)) (c :: s) [] (some number) :=
      fun offset fuel hfuel =>
        (hafter offset fuel hfuel).of_eq (afterWhole_none_eq hc offset fuel).symm
    exact hsurplus.of_ensures (ensures_afterWhole_some _ _ _)

theorem integer?_eq_some_iff {k : Int} :
    n.integer? = some k ↔ (n.fraction = none ∧ n.exponent = none) ∧ n.signed = k := by
  unfold integer?
  simp only [Bool.and_eq_true, Option.isNone_iff_eq_none]
  split
  · rename_i hform
    simp only [Option.some.injEq, hform, and_self, true_and]
  · rename_i hform
    simp only [reduceCtorEq, hform, false_and]

theorem wholeNumber_eq_whole_iff {k : Int} :
    wholeNumber n.negative n.magnitude = .whole k ↔
      n.signed = k ∧
        (n.negative = true → n.magnitude ≠ 0 ∧ n.magnitude ≤ 0x8000000000000000) := by
  unfold wholeNumber signed
  split
  · rename_i hsign
    split
    · simp only [reduceCtorEq, false_iff]
      rintro ⟨-, hin⟩
      have hin := hin hsign
      omega
    · simp only [Number.whole.injEq]
      omega
  · rename_i hsign
    rw [Number.whole.injEq]
    exact ⟨fun h => ⟨h, fun hnegative => absurd hnegative hsign⟩, And.left⟩

/-- A number is read as whole exactly if it is an integer literal, but no negative zero, that fits
64 bits. -/
theorem number?_eq_whole_iff {k : Int} :
    n.number? = some (.whole k) ↔ n.integer? = some k ∧ ¬ n.IsNegativeZero ∧
      -0x8000000000000000 ≤ k ∧ k < 0x10000000000000000 := by
  constructor
  · intro h
    by_cases hother : n.fraction ≠ none ∨ n.exponent ≠ none ∨ maxSignificand < n.magnitude
    · exact (isFiniteReal_of_number? h hother).elim
    · simp only [not_or, not_not, Nat.not_lt] at hother
      obtain ⟨hfraction, hexponent, hle⟩ := hother
      rw [number?_of_le hfraction hexponent hle, Option.some.injEq, wholeNumber_eq_whole_iff] at h
      obtain ⟨hk, hnegative⟩ := h
      refine ⟨integer?_eq_some_iff.mpr ⟨⟨hfraction, hexponent⟩, hk⟩, ?_, ?_⟩
      · rintro ⟨hsign, hzero⟩
        obtain ⟨-, hsigned⟩ := integer?_eq_some_iff.mp hzero
        rw [signed, if_pos hsign] at hsigned
        have hne := (hnegative hsign).1
        omega
      · unfold maxSignificand at hle
        rw [signed] at hk
        split at hk
        · rename_i hsign
          have hbound := (hnegative hsign).2
          omega
        · omega
  · rintro ⟨hinteger, hzero, hlow, hhigh⟩
    obtain ⟨⟨hfraction, hexponent⟩, hk⟩ := integer?_eq_some_iff.mp hinteger
    have hle : n.magnitude ≤ maxSignificand := by
      unfold maxSignificand
      rw [signed] at hk
      split at hk
      · omega
      · omega
    rw [number?_of_le hfraction hexponent hle, Option.some.injEq, wholeNumber_eq_whole_iff]
    refine ⟨hk, fun hsign => ⟨?_, ?_⟩⟩
    · intro hmagnitude
      refine hzero ⟨hsign, integer?_eq_some_iff.mpr ⟨⟨hfraction, hexponent⟩, ?_⟩⟩
      rw [signed, if_pos hsign, hmagnitude]
      rfl
    · rw [signed, if_pos hsign] at hk
      omega

/-- Whether a literal is an integer literal of a signed 64-bit number, but no negative zero. -/
def IsInt64 (n : Numeral) (i : Int64) : Prop := n.integer? = some i.toInt ∧ ¬ n.IsNegativeZero

theorem number?_eq_int64_iff {i : Int64} :
    n.number? = some (.whole i.toInt) ↔ n.IsInt64 i := by
  have hlow := i.le_toInt
  have hhigh := i.toInt_lt
  rw [number?_eq_whole_iff]
  constructor
  · rintro ⟨hinteger, hzero, -, -⟩
    exact ⟨hinteger, hzero⟩
  · rintro ⟨hinteger, hzero⟩
    exact ⟨hinteger, hzero, by omega, by omega⟩

/-- An integer literal without a minus that fits 64 bits is read as what it says. -/
theorem number?_eq_natural_iff {m : UInt64} :
    n.number? = some (.whole m.toNat) ↔ n.negative = false ∧ n.integer? = some (m.toNat : Int) := by
  have hm := m.toNat_lt
  rw [number?_eq_whole_iff]
  constructor
  · rintro ⟨hinteger, hzero, -, -⟩
    refine ⟨Bool.eq_false_iff.mpr fun hsign => hzero ⟨hsign, ?_⟩, hinteger⟩
    -- what a minus makes is at most zero, and a natural number is at least zero
    obtain ⟨-, hk⟩ := integer?_eq_some_iff.mp hinteger
    rw [signed, if_pos hsign] at hk
    rw [hinteger]
    exact congrArg some (by omega)
  · rintro ⟨hsign, hinteger⟩
    refine ⟨hinteger, fun hzero => ?_, by omega, by omega⟩
    exact absurd (hzero.1.symm.trans hsign) (by decide)

end Numeral

/-- Zero, perhaps with a minus. -/
def zeroLiteral (negative : Bool) : Numeral where
  negative := negative
  whole := ⟨['0'], List.cons_ne_nil _ _, List.forall_mem_singleton.mpr rfl⟩
  zero := fun _ => rfl
  fraction := none
  exponent := none

end OvsdbModels.Json
