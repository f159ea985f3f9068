/-
  OvsdbModels/Proofs/Json/Reading.lean
  ====================================
  **What readers make of a stretch of text.**

  `Reads r text rest outcome` says what a reader gives on a text with `rest` behind it, wherever the text
  stands in a document: a value, with exactly the text taken, or a failure.  Which failure it is, and
  where, is left open, since that does depend on the place.  Readers that run one after another read
  texts that stand one after another (`Reads.bind`).
-/
import OvsdbModels.Proofs.Json.Grammar

namespace OvsdbModels.Json

variable {α β : Type}

/-- Whether a reader came to an outcome, with `rest` left; the outcome `none` is a failure. -/
def Gives (result : EStateM.Result Problem Cursor α) (rest : List Char) (fuel : Nat) :
    Option α → Prop
  | some a => ∃ offset, result = .ok a ⟨rest, offset, fuel⟩
  | none => ∃ problem cursor, result = .error problem cursor

/-- What a reader gives on a text that has `rest` behind it.  The cursor's bound on steps is large
enough for the text that is left, as it is from the start of a document on. -/
def Reads (r : Reader α) (text rest : List Char) (outcome : Option α) : Prop :=
  ∀ offset fuel, 2 * (text ++ rest).length + 2 ≤ fuel →
    Gives (r ⟨text ++ rest, offset, fuel⟩) rest fuel outcome

/-- Whether a reader fails whatever it is given. -/
def Fails (r : Reader α) : Prop := ∀ cursor, ∃ problem cursor', r cursor = .error problem cursor'

/-! ### Sequences -/

theorem Reads.pure (a : α) (rest : List Char) : Reads (pure a) [] rest (some a) :=
  fun offset _ _ => ⟨offset, rfl⟩

theorem bind_of_ok {r : Reader α} {f : α → Reader β} {cursor cursor' : Cursor} {a : α}
    (h : r cursor = .ok a cursor') : (r >>= f) cursor = f a cursor' := by
  show EStateM.bind r f cursor = f a cursor'
  rw [EStateM.bind, h]

theorem bind_of_error {r : Reader α} {f : α → Reader β} {cursor cursor' : Cursor}
    {problem : Problem} (h : r cursor = .error problem cursor') :
    (r >>= f) cursor = .error problem cursor' := by
  show EStateM.bind r f cursor = .error problem cursor'
  rw [EStateM.bind, h]

theorem Gives.of_eq {result result' : EStateM.Result Problem Cursor α} {rest : List Char}
    {fuel : Nat} {o : Option α} (h : Gives result' rest fuel o) (heq : result = result') :
    Gives result rest fuel o :=
  heq ▸ h

theorem Reads.bind {r : Reader α} {f : α → Reader β} {s t rest : List Char}
    {o : Option α} {p : α → Option β}
    (h : Reads r s (t ++ rest) o)
    (h' : ∀ a, o = some a → Reads (f a) t rest (p a)) :
    Reads (r >>= f) (s ++ t) rest (o.bind p) := by
  intro offset fuel hfuel
  rw [List.append_assoc] at hfuel ⊢
  have hr := h offset fuel hfuel
  cases o with
  | none =>
    obtain ⟨problem, cursor, hr⟩ := hr
    exact ⟨problem, cursor, bind_of_error hr⟩
  | some a =>
    obtain ⟨offset', hr⟩ := hr
    have henough : 2 * (t ++ rest).length + 2 ≤ fuel := by
      rw [List.length_append] at hfuel
      omega
    exact (h' a rfl offset' fuel henough).of_eq (bind_of_ok hr)

theorem Reads.bind_some {r : Reader α} {f : α → Reader β} {s t rest : List Char} {a : α}
    {o : Option β} (h : Reads r s (t ++ rest) (some a))
    (h' : Reads (f a) t rest o) : Reads (r >>= f) (s ++ t) rest o :=
  Reads.bind (p := fun _ => o) h fun _ heq => Option.some.inj heq ▸ h'

theorem Reads.bind_end {r : Reader α} {f : α → Reader β} {s rest : List Char} {a : α} {o : Option β}
    (h : Reads r s rest (some a)) (h' : Reads (f a) [] rest o) : Reads (r >>= f) s rest o := by
  rw [← List.append_nil s]
  exact Reads.bind_some h h'

theorem Reads.bind_none {r : Reader α} {s rest : List Char} (h : Reads r s rest none)
    (f : α → Reader β) : Reads (r >>= f) s rest none := by
  intro offset fuel hfuel
  obtain ⟨problem, cursor, hr⟩ := h offset fuel hfuel
  exact ⟨problem, cursor, bind_of_error hr⟩

/-- A failure is a failure of any longer text. -/
theorem Reads.none_append {r : Reader α} {s t rest : List Char}
    (h : Reads r s (t ++ rest) none) : Reads r (s ++ t) rest none := by
  intro offset fuel hfuel
  rw [List.append_assoc] at hfuel ⊢
  exact h offset fuel hfuel

theorem Reads.map {r : Reader α} {s rest : List Char} {o : Option α}
    (h : Reads r s rest o) (f : α → β) :
    Reads (f <$> r) s rest (o.map f) := by
  intro offset fuel hfuel
  have hr := h offset fuel hfuel
  cases o with
  | none =>
    obtain ⟨problem, cursor, hr⟩ := hr
    exact ⟨problem, cursor, bind_of_error hr⟩
  | some a =>
    obtain ⟨offset', hr⟩ := hr
    exact ⟨offset', bind_of_ok hr⟩

theorem Fails.reads {r : Reader α} (h : Fails r) (s rest : List Char) :
    Reads r s rest none :=
  fun _ _ _ => h _

/-! ### Failing -/

theorem fails_failAhead (bytes : Nat) (failure : Failure) :
    Fails (failAhead bytes failure : Reader α) :=
  fun _ => ⟨_, _, rfl⟩

theorem fails_failHere (failure : Failure) : Fails (failHere failure : Reader α) :=
  fails_failAhead 0 failure

theorem fails_failNext (failure : Failure) : Fails (failNext failure : Reader α) :=
  fun _ => ⟨_, _, rfl⟩

theorem fails_failWhole (failure : Failure) : Fails (failWhole failure : Reader α) :=
  fun _ => ⟨_, _, rfl⟩

/-- A sequence fails if it ends in a failure. -/
theorem Fails.bind {r : Reader α} {f : α → Reader β} (h : ∀ a, Fails (f a)) : Fails (r >>= f) := by
  intro cursor
  cases hr : r cursor with
  | error problem cursor' => exact ⟨problem, cursor', bind_of_error hr⟩
  | ok a cursor' =>
    rw [bind_of_ok hr]
    exact h a cursor'

/-! ### Characters -/

theorem reads_peek (rest : List Char) : Reads peek [] rest (some rest.head?) :=
  fun offset _ _ => ⟨offset, rfl⟩

theorem reads_advance (c : Char) (rest : List Char) : Reads advance [c] rest (some ()) :=
  fun offset _ _ => ⟨offset + c.utf8Size, rfl⟩

theorem Reads.peek_bind_head {f : Option Char → Reader α} {text rest : List Char}
    {head : Option Char} {outcome : Option α} (h : (text ++ rest).head? = head)
    (hf : Reads (f head) text rest outcome) : Reads (Json.peek >>= f) text rest outcome :=
  (reads_peek _).bind_some (s := []) (h ▸ hf)

theorem Reads.peek_bind {f : Option Char → Reader α} {c : Char} {text rest : List Char}
    {outcome : Option α} (h : Reads (f (some c)) (c :: text) rest outcome) :
    Reads (Json.peek >>= f) (c :: text) rest outcome :=
  Reads.peek_bind_head rfl h

theorem Reads.advance_bind {f : Unit → Reader α} {c : Char} {text rest : List Char}
    {outcome : Option α} (h : Reads (f ()) text rest outcome) :
    Reads (Json.advance >>= f) (c :: text) rest outcome :=
  (reads_advance c _).bind_some (s := [c]) h

theorem dropWhile_append_of_isBlank {blank rest : List Char} (h : IsBlank blank)
    (hrest : ∀ c, rest.head? = some c → isSpace c = false) :
    (blank ++ rest).dropWhile isSpace = rest := by
  rw [List.dropWhile_append_of_pos h]
  cases rest with
  | nil => rfl
  | cons c rest => rw [List.dropWhile_cons, hrest c rfl, if_neg Bool.false_ne_true]

theorem reads_peekPiece {blank rest : List Char} (h : IsBlank blank)
    (hrest : ∀ c, rest.head? = some c → isSpace c = false) :
    Reads peekPiece blank rest (some rest.head?) := by
  intro offset fuel _
  refine ⟨offset + ((blank ++ rest).takeWhile isSpace).length, ?_⟩
  simp only [peekPiece, dropWhile_append_of_isBlank h hrest]

/-- The next piece is found behind white space. -/
theorem Reads.piece_bind {f : Option Char → Reader α} {blank : List Char} {c : Char}
    {text rest : List Char} {outcome : Option α} (hblank : IsBlank blank) (hc : isSpace c = false)
    (h : Reads (f (some c)) (c :: text) rest outcome) :
    Reads (peekPiece >>= f) (blank ++ c :: text) rest outcome := by
  refine (reads_peekPiece hblank fun d hd => ?_).bind_some h
  rw [← Option.some.inj hd]
  exact hc

/-- A loop gets a bound on its steps that is large enough for the text that is left. -/
theorem Reads.fuel_bind {f : Nat → Reader α} {text rest : List Char} {outcome : Option α}
    (h : ∀ n, 2 * (text ++ rest).length + 2 ≤ n → Reads (f n) text rest outcome) :
    Reads (fuel >>= f) text rest outcome :=
  fun offset n hn => h n hn offset n hn

/-! ### Words -/

theorem reads_wordTail (letters rest : List Char) :
    Reads (wordTail letters) letters rest (some ()) := by
  induction letters with
  | nil => exact Reads.pure () rest
  | cons c letters ih =>
    refine Reads.peek_bind ?_
    simp only [if_pos]
    exact Reads.advance_bind ih

theorem reads_word (c : Char) (letters rest : List Char) :
    Reads (word (c :: letters)) (c :: letters) rest (some ()) :=
  Reads.advance_bind (reads_wordTail letters rest)

/-- A word that stands for a value. -/
theorem reads_word_pure (c : Char) (letters : List Char) (a : α) (rest : List Char) :
    Reads (do word (c :: letters); Pure.pure a) (c :: letters) rest (some a) :=
  (reads_word c letters rest).bind_end (Reads.pure a rest)

end OvsdbModels.Json
