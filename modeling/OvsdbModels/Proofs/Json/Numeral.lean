/-
  OvsdbModels/Proofs/Json/Numeral.lean
  ====================================
  **Reading numbers.**

  What a number reads as is a matter of its own characters, as long as no digit, point or exponent
  follows it.  The value is not worked out here: it is enough that it is the same wherever the number
  stands (`settles_numeral`).  Digits beyond the significand are the one place where a run of digits is
  not taken by one reader alone.
-/
import OvsdbModels.Json.Numeral
import OvsdbModels.Proofs.Json.Reading

namespace OvsdbModels.Json

/-! ### What follows digits -/

def NoDigit (rest : List Char) : Prop := ∀ c, rest.head? = some c → c.isDigit = false

theorem Stops.noDigit {rest : List Char} (h : Stops rest) : NoDigit rest := by
  have hall : [' ', '\n', '\t', '\r', ',', ']', '\x7d'].all (·.isDigit == false) = true := rfl
  exact fun c hc => beq_iff_eq.mp (List.all_eq_true.mp hall c (h c hc))

theorem noDigit_exponentText (e : Option Exponent) {rest : List Char} (h : Stops rest) :
    NoDigit (exponentText e ++ rest) := by
  cases e with
  | none => exact h.noDigit
  | some e =>
    intro c hc
    obtain rfl := Option.some.inj hc
    cases e.upper <;> rfl

theorem noDigit_fractionText (f : Option DigitRun) (e : Option Exponent) {rest : List Char}
    (h : Stops rest) : NoDigit (fractionText f ++ (exponentText e ++ rest)) := by
  cases f with
  | none => exact noDigit_exponentText e h
  | some digits =>
    intro c hc
    obtain rfl := Option.some.inj hc
    rfl

theorem DigitRun.exists_cons (d : DigitRun) : ∃ c rest, d.text = c :: rest ∧ c.isDigit = true := by
  obtain ⟨c, rest, h⟩ := List.exists_cons_of_ne_nil d.ne_nil
  exact ⟨c, rest, h, d.digits c (h ▸ List.mem_cons_self)⟩

/-! ### Runs of digits -/

theorem exists_takeDigits (limit : Nat) {s : List Char} (hs : ∀ c ∈ s, c.isDigit = true) (n : Nat) :
    ∃ n' taken left, s = taken ++ left ∧ ∀ rest, NoDigit rest →
      takeDigits limit n (s ++ rest) = (n', taken.length, left ++ rest) := by
  induction s generalizing n with
  | nil =>
    refine ⟨n, [], [], rfl, fun rest hrest => ?_⟩
    cases rest with
    | nil => rfl
    | cons c rest =>
      have hc : ¬ (c.isDigit = true ∧ 10 * n + Text.digitValue c ≤ limit) := by
        rw [hrest c rfl]
        exact fun h => Bool.false_ne_true h.1
      rw [List.nil_append, takeDigits, if_neg hc]
      rfl
  | cons c s ih =>
    obtain ⟨hc, hs⟩ := List.forall_mem_cons.mp hs
    by_cases hfits : 10 * n + Text.digitValue c ≤ limit
    · obtain ⟨n', taken, left, rfl, htake⟩ := ih hs (10 * n + Text.digitValue c)
      refine ⟨n', c :: taken, left, rfl, fun rest hrest => ?_⟩
      rw [List.cons_append, takeDigits, if_pos ⟨hc, hfits⟩, htake rest hrest]
      rfl
    · refine ⟨n, [], c :: s, rfl, fun rest _ => ?_⟩
      rw [List.cons_append, takeDigits, if_neg fun h => hfits h.2]
      rfl

/-- Digits are taken up to a place that does not depend on what follows them. -/
theorem exists_reads_digits (limit n : Nat) {s : List Char} (hs : ∀ c ∈ s, c.isDigit = true) :
    ∃ n' taken left, s = taken ++ left ∧ ∀ rest, NoDigit rest →
      Reads (digits limit n) taken (left ++ rest) (some (n', taken.length)) := by
  obtain ⟨n', taken, left, rfl, htake⟩ := exists_takeDigits limit hs n
  refine ⟨n', taken, left, rfl, fun rest hrest offset fuel _ => ⟨offset + taken.length, ?_⟩⟩
  have htake := htake rest hrest
  rw [List.append_assoc] at htake
  simp only [digits, htake]

theorem reads_passDigits {s rest : List Char} (hs : ∀ c ∈ s, c.isDigit = true)
    (hrest : NoDigit rest) : Reads passDigits s rest (some s.length) := by
  have hnone : rest.takeWhile Char.isDigit = [] ∧ rest.dropWhile Char.isDigit = rest := by
    cases rest with
    | nil => exact ⟨rfl, rfl⟩
    | cons c rest => simp [hrest c rfl]
  have htake : (s ++ rest).takeWhile Char.isDigit = s := by
    rw [List.takeWhile_append_of_pos hs, hnone.1, List.append_nil]
  have hdrop : (s ++ rest).dropWhile Char.isDigit = rest := by
    rw [List.dropWhile_append_of_pos hs, hnone.2]
  intro offset fuel _
  refine ⟨offset + s.length, ?_⟩
  simp only [passDigits, htake, hdrop]

theorem Reads.atDigit_bind {α : Type} {f : Bool → Reader α} {text rest : List Char}
    {outcome : Option α} (h : Reads (f ((text ++ rest).head?.any Char.isDigit)) text rest outcome) :
    Reads (Json.atDigit >>= f) text rest outcome :=
  (Reads.map (s := []) (reads_peek _) (·.any Char.isDigit)).bind_some h

theorem NoDigit.any_isDigit {rest : List Char} (h : NoDigit rest) :
    rest.head?.any Char.isDigit = false := by
  cases hhead : rest.head? with
  | none => rfl
  | some c => exact h c hhead

/-! ### Parts of a number -/

/-- Whether a reader has one outcome on a text, whatever stops the text. -/
def Settles {α : Type} (r : Reader α) (text : List Char) : Prop :=
  ∃ outcome, ∀ rest, Stops rest → Reads r text rest outcome

namespace Settles

variable {α β : Type} {s t : List Char}

theorem of_fails {r : Reader α} (h : Fails r) (s : List Char) : Settles r s :=
  ⟨none, fun rest _ => h.reads s rest⟩

theorem pure (a : α) : Settles (Pure.pure a : Reader α) [] :=
  ⟨some a, fun rest _ => Reads.pure a rest⟩

theorem bind_some {r : Reader α} {f : α → Reader β} {a : α}
    (h : ∀ rest, Stops rest → Reads r s (t ++ rest) (some a)) (hf : Settles (f a) t) :
    Settles (r >>= f) (s ++ t) := by
  obtain ⟨outcome, hf⟩ := hf
  exact ⟨outcome, fun rest hrest => (h rest hrest).bind_some (hf rest hrest)⟩

theorem bind_end {r : Reader α} {f : α → Reader β} (h : Settles r s) (hf : ∀ a, Settles (f a) []) :
    Settles (r >>= f) s := by
  obtain ⟨outcome, h⟩ := h
  cases outcome with
  | none => exact ⟨none, fun rest hrest => (h rest hrest).bind_none f⟩
  | some a =>
    obtain ⟨outcome, hf⟩ := hf a
    exact ⟨outcome, fun rest hrest => (h rest hrest).bind_end (hf rest hrest)⟩

theorem advance_bind {f : Unit → Reader β} (c : Char) (hf : Settles (f ()) t) :
    Settles (advance >>= f) (c :: t) :=
  bind_some (s := [c]) (fun rest _ => reads_advance c (t ++ rest)) hf

theorem peek_bind {f : Option Char → Reader β} {c : Char} (hf : Settles (f (some c)) (c :: t)) :
    Settles (peek >>= f) (c :: t) :=
  bind_some (s := []) (fun rest _ => reads_peek (c :: t ++ rest)) hf

/-- Where a text is at its end, only that the next character stops it is known. -/
theorem peek_bind_end {f : Option Char → Reader β} {r : Reader β} (hr : Settles r [])
    (hf : ∀ head : Option Char, (∀ c ∈ head, c ∈ [' ', '\n', '\t', '\r', ',', ']', '\x7d']) →
      f head = r) : Settles (peek >>= f) [] := by
  obtain ⟨outcome, hr⟩ := hr
  refine ⟨outcome, fun rest hrest => Reads.peek_bind_head rfl ?_⟩
  rw [List.nil_append, hf rest.head? hrest]
  exact hr rest hrest

/-- A run of digits, of which a part may be left over. -/
theorem digits_bind {limit n : Nat} (hs : ∀ c ∈ s, c.isDigit = true)
    (ht : ∀ rest, Stops rest → NoDigit (t ++ rest)) {g : Nat × Nat → Reader β}
    {f : Nat → Nat → Bool → Reader β} (hg : ∀ n' count, g (n', count) = atDigit >>= f n' count)
    (hleft : ∀ n' count c left, (∀ d ∈ c :: left, d.isDigit = true) →
      Settles (f n' count true) (c :: left ++ t))
    (hdone : ∀ n', Settles (f n' s.length false) t) : Settles (digits limit n >>= g) (s ++ t) := by
  obtain ⟨n', taken, left, rfl, hdigits⟩ := exists_reads_digits limit n hs
  have hread : ∀ rest, Stops rest →
      Reads (digits limit n) taken (left ++ t ++ rest) (some (n', taken.length)) := by
    intro rest hrest
    rw [List.append_assoc]
    exact hdigits _ (ht rest hrest)
  rw [List.append_assoc]
  refine bind_some hread ?_
  rw [hg]
  cases left with
  | nil =>
    obtain ⟨outcome, hdone⟩ := hdone n'
    rw [List.append_nil] at hdone
    refine ⟨outcome, fun rest hrest => Reads.atDigit_bind ?_⟩
    rw [List.nil_append, (ht rest hrest).any_isDigit]
    exact hdone rest hrest
  | cons c left =>
    have hleft' : ∀ d ∈ c :: left, d.isDigit = true :=
      fun d hd => hs d (List.mem_append_right _ hd)
    obtain ⟨outcome, hleft⟩ := hleft n' taken.length c left hleft'
    refine ⟨outcome, fun rest hrest => Reads.atDigit_bind ?_⟩
    have hany : ((c :: left ++ t) ++ rest).head?.any Char.isDigit = true :=
      hleft' c List.mem_cons_self
    rw [hany]
    exact hleft rest hrest

end Settles

theorem settles_realNumber (negative : Bool) (significand : Nat) (exponent : Int) :
    Settles (realNumber negative significand exponent) [] := by
  unfold realNumber
  split
  · exact .pure _
  · exact .of_fails (fails_failHere _) []

theorem reads_exponentSign (sign : Option Bool) {c : Char} (hc : c.isDigit = true)
    (rest : List Char) :
    Reads exponentSign (signText sign) (c :: rest) (some (sign == some true)) := by
  cases sign with
  | none =>
    refine Reads.peek_bind_head (show _ = some c from rfl) ?_
    split
    · rename_i heq
      exact absurd hc (Option.some.inj heq ▸ by decide)
    · rename_i heq
      exact absurd hc (Option.some.inj heq ▸ by decide)
    · exact Reads.pure _ _
  | some minus =>
    cases minus with
    | false => exact Reads.peek_bind (Reads.advance_bind (Reads.pure _ _))
    | true => exact Reads.peek_bind (Reads.advance_bind (Reads.pure _ _))

theorem settles_exponentPart (negative : Bool) (significand : Nat) (exponent : Int)
    (e : Exponent) :
    Settles (exponentPart negative significand exponent) (exponentText (some e)) := by
  obtain ⟨c, ds, hds, hc⟩ := e.digits.exists_cons
  have hsign : ∀ rest, Stops rest → Reads exponentSign (signText e.sign) (e.digits.text ++ rest)
      (some (e.sign == some true)) := by
    intro rest _
    rw [hds]
    exact reads_exponentSign e.sign hc (ds ++ rest)
  refine .advance_bind _ (.bind_some hsign ?_)
  rw [hds]
  refine .peek_bind ?_
  rw [← hds, ← List.append_nil e.digits.text]
  simp only [hc, if_true]
  refine .digits_bind (t := []) e.digits.digits (fun rest h => h.noDigit) (fun _ _ => rfl) ?_ ?_
  · intro n count d left hleft
    refine .advance_bind _ ?_
    split
    · exact .of_fails (fails_failHere _) _
    · obtain ⟨-, hleft⟩ := List.forall_mem_cons.mp hleft
      exact .bind_some (fun rest hrest => reads_passDigits hleft hrest.noDigit) (.pure _)
  · exact fun n => settles_realNumber _ _ _

theorem Settles.exponent_bind {negative : Bool} {significand : Nat} {exponent : Int} {e : Exponent}
    {f : Option Char → Reader Number}
    (hlower : f (some 'e') = exponentPart negative significand exponent)
    (hupper : f (some 'E') = exponentPart negative significand exponent) :
    Settles (peek >>= f) (exponentText (some e)) := by
  have hpart := settles_exponentPart negative significand exponent e
  rw [exponentText] at hpart ⊢
  refine .peek_bind ?_
  generalize e.upper = upper at hpart ⊢
  cases upper with
  | true => exact hupper ▸ hpart
  | false => exact hlower ▸ hpart

theorem settles_afterDigits (negative : Bool) (significand : Nat) (exponent : Int)
    (e : Option Exponent) :
    Settles (afterDigits negative significand exponent) (exponentText e) := by
  cases e with
  | none =>
    refine .peek_bind_end (settles_realNumber negative significand exponent) fun head hhead => ?_
    split
    · exact absurd (hhead _ rfl) (by decide)
    · exact absurd (hhead _ rfl) (by decide)
    · rfl
  | some e => exact .exponent_bind rfl rfl

theorem settles_fractionPart (negative : Bool) (significand : Nat) (exponent : Int)
    (f : DigitRun) (e : Option Exponent) :
    Settles (fractionPart negative significand exponent)
      (fractionText (some f) ++ exponentText e) := by
  refine .advance_bind _ ?_
  refine .digits_bind f.digits (fun rest h => noDigit_exponentText e h) (fun _ _ => rfl) ?_ ?_
  · intro n count d left hleft
    exact .bind_some (fun rest hrest => reads_passDigits hleft (noDigit_exponentText e hrest))
      (settles_afterDigits negative n (exponent - count) e)
  · intro n
    have hcount : ¬ f.text.length = 0 := fun h => f.ne_nil (List.length_eq_zero_iff.mp h)
    simp only [hcount, if_false]
    exact settles_afterDigits negative n _ e

/-- Behind the whole digits, where a number may end. -/
theorem settles_afterWhole (negative : Bool) (n : Nat) (surplus : Option Nat)
    (f : Option DigitRun) (e : Option Exponent) :
    Settles (afterWhole negative n surplus) (fractionText f ++ exponentText e) := by
  cases f with
  | some f => exact .peek_bind (settles_fractionPart negative n (surplus.getD 0) f e)
  | none =>
    cases e with
    | some e => exact .exponent_bind rfl rfl
    | none =>
      cases surplus with
      | none =>
        refine .peek_bind_end (.pure (wholeNumber negative n)) fun head hhead => ?_
        split
        · exact absurd (hhead _ rfl) (by decide)
        · exact absurd (hhead _ rfl) (by decide)
        · exact absurd (hhead _ rfl) (by decide)
        · rfl
        · rename_i heq
          exact nomatch heq
      | some count =>
        refine .peek_bind_end (settles_realNumber negative n count) fun head hhead => ?_
        split
        · exact absurd (hhead _ rfl) (by decide)
        · exact absurd (hhead _ rfl) (by decide)
        · exact absurd (hhead _ rfl) (by decide)
        · rename_i heq
          exact nomatch heq
        · rename_i heq
          cases heq
          rfl

/-! ### Numbers -/

theorem settles_unsignedNumber (negative : Bool) (n : Numeral) :
    Settles (unsignedNumber negative)
      (n.whole.text ++ (fractionText n.fraction ++ exponentText n.exponent)) := by
  obtain ⟨c, ds, hds, hc⟩ := n.whole.exists_cons
  have htail : ∀ rest, Stops rest →
      NoDigit (fractionText n.fraction ++ exponentText n.exponent ++ rest) := by
    intro rest hrest
    rw [List.append_assoc]
    exact noDigit_fractionText n.fraction n.exponent hrest
  by_cases hzero : c = '0'
  · subst hzero
    obtain ⟨outcome, hwhole⟩ := settles_afterWhole negative 0 none n.fraction n.exponent
    rw [n.zero (by rw [hds]; rfl), List.singleton_append]
    refine .peek_bind (.advance_bind _ ⟨outcome, fun rest hrest => Reads.atDigit_bind ?_⟩)
    rw [(htail rest hrest).any_isDigit]
    exact hwhole rest hrest
  · rw [hds, List.cons_append]
    refine .peek_bind ?_
    split
    · rename_i heq
      exact nomatch heq
    · rename_i heq
      exact absurd (Option.some.inj heq) hzero
    · rename_i heq
      obtain rfl := Option.some.inj heq
      rw [if_pos hc, ← List.cons_append, ← hds]
      refine .digits_bind n.whole.digits htail (fun _ _ => rfl) ?_ ?_
      · intro m count d left hleft
        exact .bind_some (fun rest hrest => reads_passDigits hleft (htail rest hrest))
          (settles_afterWhole negative m _ n.fraction n.exponent)
      · exact fun m => settles_afterWhole negative m none n.fraction n.exponent

/-- A number reads as the same wherever it stands. -/
theorem settles_numeral (n : Numeral) : Settles numeral n.text := by
  unfold numeral Numeral.text
  cases n.negative with
  | true => exact .peek_bind (.advance_bind _ (settles_unsignedNumber true n))
  | false =>
    obtain ⟨c, ds, hds, hc⟩ := n.whole.exists_cons
    have hnumber := settles_unsignedNumber false n
    rw [hds] at hnumber ⊢
    refine .peek_bind ?_
    split
    · rename_i heq
      exact absurd hc (Option.some.inj heq ▸ by decide)
    · exact hnumber

/-! ### Numbers that are passed over -/

theorem Reads.passDigits_bind {α : Type} (d : DigitRun) {r other : Reader α} {text rest : List Char}
    {outcome : Option α} (htext : NoDigit (text ++ rest)) (h : Reads r text rest outcome) :
    Reads (do
      if ← atDigit then
        let _ ← passDigits
        r
      else other) (d.text ++ text) rest outcome := by
  obtain ⟨c, ds, hds, hc⟩ := d.exists_cons
  refine Reads.atDigit_bind ?_
  have hany : (d.text ++ text ++ rest).head?.any Char.isDigit = true := by
    rw [hds]
    exact hc
  simp only [hany, if_true]
  exact (reads_passDigits d.digits htext).bind_some h

theorem reads_passExponent (e : Exponent) {rest : List Char} (h : Stops rest) :
    Reads passExponent (exponentText (some e)) rest (some ()) := by
  obtain ⟨c, ds, hds, hc⟩ := e.digits.exists_cons
  have hsign := reads_exponentSign e.sign hc (ds ++ rest)
  rw [← List.cons_append, ← hds] at hsign
  refine Reads.advance_bind (hsign.bind_some ?_)
  rw [← List.append_nil e.digits.text]
  exact Reads.passDigits_bind e.digits h.noDigit (Reads.pure () rest)

/-- Behind the digits of a number that is passed over: an exponent, or the end. -/
theorem Reads.passExponent_bind {f : Option Char → Reader Unit} (e : Option Exponent)
    {rest : List Char} (h : Stops rest) (hlower : f (some 'e') = passExponent)
    (hupper : f (some 'E') = passExponent)
    (hend : f rest.head? = (Pure.pure () : Reader Unit)) :
    Reads (Json.peek >>= f) (exponentText e) rest (some ()) := by
  cases e with
  | none =>
    refine Reads.peek_bind_head rfl ?_
    rw [exponentText, List.nil_append, hend]
    exact Reads.pure () rest
  | some e =>
    have hpass := reads_passExponent e h
    rw [exponentText] at hpass ⊢
    refine Reads.peek_bind ?_
    generalize e.upper = upper at hpass ⊢
    cases upper with
    | true => exact hupper ▸ hpass
    | false => exact hlower ▸ hpass

/-- What is passed over behind the whole digits of a number. -/
def passTail : Reader Unit := do
  match ← peek with
  | some '.' =>
    advance
    if ← atDigit then
      let _ ← passDigits
      match ← peek with
      | some 'e' => passExponent
      | some 'E' => passExponent
      | _ => pure ()
    else failNext .invalidNumber
  | some 'e' => passExponent
  | some 'E' => passExponent
  | _ => pure ()

theorem passUnsigned_eq :
    passUnsigned = (do
      match ← peek with
      | some '0' =>
        advance
        if ← atDigit then
          failNext .invalidNumber
          passTail
        else passTail
      | _ =>
        if ← atDigit then
          let _ ← passDigits
          passTail
        else
          failNext .invalidNumber
          passTail) :=
  rfl

theorem reads_passTail (f : Option DigitRun) (e : Option Exponent) {rest : List Char}
    (h : Stops rest) :
    Reads passTail (fractionText f ++ exponentText e) rest (some ()) := by
  cases f with
  | none =>
    refine Reads.passExponent_bind e h rfl rfl ?_
    split
    · rename_i heq
      exact absurd (h _ heq) (by decide)
    · rename_i heq
      exact absurd (h _ heq) (by decide)
    · rename_i heq
      exact absurd (h _ heq) (by decide)
    · rfl
  | some d =>
    refine Reads.peek_bind (Reads.advance_bind ?_)
    refine Reads.passDigits_bind d (noDigit_exponentText e h) ?_
    refine Reads.passExponent_bind e h rfl rfl ?_
    split
    · rename_i heq
      exact absurd (h _ heq) (by decide)
    · rename_i heq
      exact absurd (h _ heq) (by decide)
    · rfl

theorem reads_passUnsigned (n : Numeral) {rest : List Char} (h : Stops rest) :
    Reads passUnsigned (n.whole.text ++ (fractionText n.fraction ++ exponentText n.exponent)) rest
      (some ()) := by
  obtain ⟨c, ds, hds, hc⟩ := n.whole.exists_cons
  have htail := reads_passTail n.fraction n.exponent h
  have hnodigit : NoDigit (fractionText n.fraction ++ exponentText n.exponent ++ rest) := by
    rw [List.append_assoc]
    exact noDigit_fractionText n.fraction n.exponent h
  rw [passUnsigned_eq]
  by_cases hzero : c = '0'
  · subst hzero
    rw [n.zero (by rw [hds]; rfl), List.singleton_append]
    refine Reads.peek_bind (Reads.advance_bind (Reads.atDigit_bind ?_))
    rw [hnodigit.any_isDigit]
    exact htail
  · refine Reads.peek_bind_head (show _ = some c by rw [hds]; rfl) ?_
    split
    · rename_i heq
      exact absurd (Option.some.inj heq) hzero
    · exact Reads.passDigits_bind n.whole hnodigit htail

/-- A number is passed over whatever its size. -/
theorem reads_passNumeral (n : Numeral) {rest : List Char} (h : Stops rest) :
    Reads passNumeral n.text rest (some ()) := by
  have hunsigned := reads_passUnsigned n h
  unfold passNumeral Numeral.text
  cases n.negative with
  | true => exact Reads.peek_bind (Reads.advance_bind hunsigned)
  | false =>
    obtain ⟨c, ds, hds, hc⟩ := n.whole.exists_cons
    refine Reads.peek_bind_head (show _ = some c by rw [hds]; rfl) ?_
    split
    · rename_i heq
      exact absurd hc (Option.some.inj heq ▸ by decide)
    · exact hunsigned

end OvsdbModels.Json
