/-
  OvsdbModels/Proofs/Go/Lexical.lean
  ==================================
  **How Go reads the literal of a constant.**

  A constant stands for an integer, a truth value or a sequence of bytes.  An interpreted string stands
  for the bytes of its characters, except for its escapes.  Every escape is longer than what it stands
  for, so the text between the quotes stands for its own bytes only if there is no escape in it
  (`contents?_eq_bytes_iff`).
-/
import OvsdbModels.Proofs.Decimal
import OvsdbModels.Proofs.Json.Text
import OvsdbModels.Proofs.Text.ByteOrder
import OvsdbModels.Text.Letter

namespace OvsdbModels.Go

open Json (byteCount byteCount_append length_flatMap_utf8EncodeChar length_le_byteCount)

/-- The value of a constant; a string is a sequence of bytes. -/
inductive Constant where
  | integer (n : Int)
  | boolean (b : Bool)
  | text (bytes : List UInt8)
  deriving DecidableEq, Repr

/-! ### Integers -/

/-- A number with one more digit, in a base up to sixteen. -/
def withDigit? (base n : Nat) (c : Char) : Option Nat :=
  ((Text.hexValue? c).filter (· < base)).map (base * n + ·)

/-- The number that digits stand for; there is at least one digit. -/
def numberIn? (base : Nat) : List Char → Option Nat
  | [] => none
  | digits => digits.foldlM (withDigit? base) 0

/-- The base that a letter behind a leading zero announces. -/
def announcedBase? : Char → Option Nat
  | 'x' => some 16
  | 'X' => some 16
  | 'o' => some 8
  | 'O' => some 8
  | 'b' => some 2
  | 'B' => some 2
  | _ => none

/-- The number of an integer literal without underscores.  A leading zero makes it octal. -/
def natural? : List Char → Option Nat
  | ['0'] => some 0
  | '0' :: c :: digits =>
    match announcedBase? c with
    | some base => numberIn? base digits
    | none => numberIn? 8 (c :: digits)
  | digits => numberIn? 10 digits

/-! ### Strings -/

/-- The escapes of one letter. -/
def letterEscape? : Char → Option UInt8
  | 'a' => some 7
  | 'b' => some 8
  | 't' => some 9
  | 'n' => some 10
  | 'v' => some 11
  | 'f' => some 12
  | 'r' => some 13
  | '"' => some 34
  | '\\' => some 92
  | _ => none

/-- The number of exactly `width` digits at the head of a text. -/
def numberAtHead? (base width : Nat) (text : List Char) : Option Nat :=
  if width ≤ text.length then numberIn? base (text.take width) else none

def byte? (n : Nat) : Option (List UInt8) := if n < 256 then some [UInt8.ofNat n] else none

/-- The bytes of a code point; a surrogate has none. -/
def codePoint? (n : Nat) : Option (List UInt8) :=
  if n.isValidChar then some (String.utf8EncodeChar (Char.ofNat n)) else none

/-- The escapes by a hexadecimal number: how many digits it has and what it stands for. -/
def hexEscape? : Char → Option (Nat × (Nat → Option (List UInt8)))
  | 'x' => some (2, byte?)
  | 'u' => some (4, codePoint?)
  | 'U' => some (8, codePoint?)
  | _ => none

/-- What an escape stands for and how long it is, read from behind its backslash.  An escape that no
letter announces is a byte by its octal number. -/
def escape? : List Char → Option (List UInt8 × Nat)
  | [] => none
  | c :: rest =>
    match letterEscape? c with
    | some byte => some ([byte], 1)
    | none =>
      match hexEscape? c with
      | some (width, meaning) =>
        (numberAtHead? 16 width rest).bind fun n => (meaning n).map (·, width + 1)
      | none => (numberAtHead? 8 3 (c :: rest)).bind fun n => (byte? n).map (·, 3)

/-- Whether a character may stand for itself between double quotes.  A strict compiler makes use of its
right to refuse the null character and the byte order mark. -/
def StandsForItself (strict : Bool) (c : Char) : Prop :=
  c ≠ '"' ∧ c ≠ '\\' ∧ c ≠ '\n' ∧ (strict = true → c ≠ '\x00' ∧ c ≠ '\uFEFF')

instance (strict : Bool) (c : Char) : Decidable (StandsForItself strict c) :=
  inferInstanceAs (Decidable (_ ∧ _))

/-- The bytes of the text between two double quotes, without its first `skip` characters. -/
def contents? (strict : Bool) : Nat → List Char → Option (List UInt8)
  | _, [] => some []
  | skip + 1, _ :: rest => contents? strict skip rest
  | 0, c :: rest =>
    if c = '\\' then
      (escape? rest).bind fun (bytes, length) => (contents? strict length rest).map (bytes ++ ·)
    else if StandsForItself strict c then (contents? strict 0 rest).map (String.utf8EncodeChar c ++ ·)
    else none

/-! ### Constants -/

/-- The constant of a text that is one literal as a whole, or the name of a truth value. -/
def literal? (strict : Bool) : List Char → Option Constant
  | ['t', 'r', 'u', 'e'] => some (.boolean true)
  | ['f', 'a', 'l', 's', 'e'] => some (.boolean false)
  | '"' :: rest =>
    if rest.getLast? = some '"' then (contents? strict 0 rest.dropLast).map .text else none
  | digits => (natural? digits).map fun n : Nat => .integer n

/-- The constant of a text that is one literal, or a minus sign and one literal of an integer. -/
def constant? (strict : Bool) : List Char → Option Constant
  | '-' :: digits => (natural? digits).map fun n : Nat => .integer (-n)
  | text => literal? strict text

/-! ### Digits are read back -/

theorem withDigit?_digitChar (n : Nat) {d : Nat} (h : d < 10) :
    withDigit? 10 n (Nat.digitChar d) = some (10 * n + d) := by
  have hdigit : ∀ d < 10, (Text.hexValue? (Nat.digitChar d)).filter (· < 10) = some d := by decide
  rw [withDigit?, hdigit d h]
  rfl

theorem foldlM_toDigits (n : Nat) : (Nat.toDigits 10 n).foldlM (withDigit? 10) 0 = some n := by
  induction n using Nat.strongRecOn with
  | _ n ih =>
    by_cases hsmall : n < 10
    · rw [Nat.toDigits_of_lt_base hsmall, List.foldlM_cons, withDigit?_digitChar 0 hsmall]
      simp
    · have hle : 10 ≤ n := Nat.le_of_not_lt hsmall
      have hlt : n / 10 < n := Nat.div_lt_self (by omega) (by decide)
      rw [Nat.toDigits_of_base_le (by decide) hle, List.foldlM_append, ih _ hlt]
      simp [withDigit?_digitChar _ (Nat.mod_lt n (by decide : 0 < 10)), Nat.div_add_mod]

theorem numberIn?_toDigits (n : Nat) : numberIn? 10 (Nat.toDigits 10 n) = some n := by
  rw [← foldlM_toDigits n]
  cases hdigits : Nat.toDigits 10 n with
  | nil => exact absurd hdigits Nat.toDigits_ne_nil
  | cons c digits => rfl

/-- No number but zero begins with a zero. -/
theorem head?_toDigits {n : Nat} (h : n ≠ 0) : (Nat.toDigits 10 n).head? ≠ some '0' := by
  have hdigit : ∀ d < 10, d ≠ 0 → Nat.digitChar d ≠ '0' := by decide
  induction n using Nat.strongRecOn with
  | _ n ih =>
    by_cases hsmall : n < 10
    · rw [Nat.toDigits_of_lt_base hsmall]
      intro heq
      exact hdigit n hsmall h (Option.some.inj heq)
    · have hle : 10 ≤ n := Nat.le_of_not_lt hsmall
      have hlt : n / 10 < n := Nat.div_lt_self (by omega) (by decide)
      have hhead := ih _ hlt (by omega)
      rw [Nat.toDigits_of_base_le (by decide) hle]
      cases hdigits : Nat.toDigits 10 (n / 10) with
      | nil => exact absurd hdigits Nat.toDigits_ne_nil
      | cons c digits =>
        rw [hdigits] at hhead
        exact hhead

theorem natural?_toDigits (n : Nat) : natural? (Nat.toDigits 10 n) = some n := by
  by_cases hzero : n = 0
  · rw [hzero]
    decide
  · have hhead := head?_toDigits hzero
    rw [← numberIn?_toDigits n]
    generalize Nat.toDigits 10 n = digits at hhead ⊢
    unfold natural?
    split
    · exact absurd rfl hhead
    · exact absurd rfl hhead
    · rfl

/-! ### The text between the quotes -/

theorem le_length_of_numberAtHead? {base width n : Nat} {text : List Char}
    (h : numberAtHead? base width text = some n) : width ≤ text.length := by
  unfold numberAtHead? at h
  split at h
  · assumption
  · exact nomatch h

theorem length_of_byte? {n : Nat} {bytes : List UInt8} (h : byte? n = some bytes) :
    bytes.length = 1 := by
  unfold byte? at h
  split at h
  · obtain rfl := Option.some.inj h
    rfl
  · exact nomatch h

theorem length_le_of_codePoint? {n : Nat} {bytes : List UInt8} (h : codePoint? n = some bytes) :
    bytes.length ≤ 4 := by
  unfold codePoint? at h
  split at h
  · obtain rfl := Option.some.inj h
    rw [String.length_utf8EncodeChar]
    exact Char.utf8Size_le_four _
  · exact nomatch h

theorem length_le_of_hexEscape? {c : Char} {width n : Nat} {meaning : Nat → Option (List UInt8)}
    {bytes : List UInt8} (h : hexEscape? c = some (width, meaning)) (hn : meaning n = some bytes) :
    bytes.length ≤ width + 1 := by
  unfold hexEscape? at h
  split at h
  · obtain ⟨rfl, rfl⟩ := Prod.mk.inj (Option.some.inj h)
    rw [length_of_byte? hn]
    decide
  · obtain ⟨rfl, rfl⟩ := Prod.mk.inj (Option.some.inj h)
    exact Nat.le_succ_of_le (length_le_of_codePoint? hn)
  · obtain ⟨rfl, rfl⟩ := Prod.mk.inj (Option.some.inj h)
    exact Nat.le_trans (length_le_of_codePoint? hn) (by decide)
  · exact nomatch h

/-- An escape is at least as long as what it stands for, even without its backslash. -/
theorem length_le_of_escape? {text : List Char} {bytes : List UInt8} {length : Nat}
    (h : escape? text = some (bytes, length)) : bytes.length ≤ length ∧ length ≤ text.length := by
  cases text with
  | nil => exact nomatch h
  | cons c rest =>
    rw [escape?] at h
    split at h
    · obtain ⟨rfl, rfl⟩ := Prod.mk.inj (Option.some.inj h)
      simp
    · split at h
      · rename_i width meaning hhex
        obtain ⟨n, hn, hmeaning⟩ := Option.bind_eq_some_iff.mp h
        obtain ⟨bytes', hbytes, heq⟩ := Option.map_eq_some_iff.mp hmeaning
        obtain ⟨rfl, rfl⟩ := Prod.mk.inj heq
        have hwidth := le_length_of_numberAtHead? hn
        exact ⟨length_le_of_hexEscape? hhex hbytes, Nat.succ_le_succ hwidth⟩
      · obtain ⟨n, hn, hbyte⟩ := Option.bind_eq_some_iff.mp h
        obtain ⟨bytes', hbytes, heq⟩ := Option.map_eq_some_iff.mp hbyte
        obtain ⟨rfl, rfl⟩ := Prod.mk.inj heq
        rw [length_of_byte? hbytes]
        exact ⟨by decide, le_length_of_numberAtHead? hn⟩

theorem byteCount_drop_le {n : Nat} {s : List Char} (h : n ≤ s.length) :
    n + byteCount (s.drop n) ≤ byteCount s := by
  have hsplit := byteCount_append (s.take n) (s.drop n)
  have htake := length_le_byteCount (s.take n)
  rw [List.take_append_drop] at hsplit
  rw [List.length_take_of_le h] at htake
  omega

/-- The text between the quotes stands for no more bytes than it has, and for fewer if any of its
characters does not stand for itself. -/
theorem length_le_of_contents? {strict : Bool} {skip : Nat} {text : List Char} {bytes : List UInt8}
    (h : contents? strict skip text = some bytes) :
    bytes.length ≤ byteCount (text.drop skip) ∧
      (byteCount (text.drop skip) ≤ bytes.length → ∀ c ∈ text.drop skip, StandsForItself strict c) := by
  induction text generalizing skip bytes with
  | nil =>
    obtain rfl := Option.some.inj ((contents?.eq_1 strict skip).symm.trans h)
    rw [List.drop_nil]
    exact ⟨Nat.zero_le _, fun _ _ hc => absurd hc List.not_mem_nil⟩
  | cons c rest ih =>
    cases skip with
    | succ skip => exact ih h
    | zero =>
      rw [List.drop_zero, byteCount]
      have hpos := c.utf8Size_pos
      rw [contents?] at h
      split at h
      · obtain ⟨⟨escaped, length⟩, hescape, h⟩ := Option.bind_eq_some_iff.mp h
        obtain ⟨later, hlater, rfl⟩ := Option.map_eq_some_iff.mp h
        obtain ⟨hescaped, hlength⟩ := length_le_of_escape? hescape
        have hdrop := byteCount_drop_le hlength
        have hle := (ih hlater).1
        rw [List.length_append]
        constructor
        · omega
        · intro hge
          omega
      · split at h
        · rename_i hself
          obtain ⟨later, hlater, rfl⟩ := Option.map_eq_some_iff.mp h
          obtain ⟨hle, hrest⟩ := ih hlater
          rw [List.drop_zero] at hle hrest
          rw [List.length_append, String.length_utf8EncodeChar]
          constructor
          · omega
          · intro hge
            exact List.forall_mem_cons.mpr ⟨hself, hrest (by omega)⟩
        · cases h

theorem contents?_of_forall {strict : Bool} {text : List Char}
    (h : ∀ c ∈ text, StandsForItself strict c) :
    contents? strict 0 text = some (text.flatMap String.utf8EncodeChar) := by
  induction text with
  | nil => rfl
  | cons c rest ih =>
    obtain ⟨hc, hrest⟩ := List.forall_mem_cons.mp h
    rw [contents?, if_neg hc.2.1, if_pos hc, ih hrest]
    rfl

/-- A text between quotes stands for its own bytes exactly if each of its characters stands for itself. -/
theorem contents?_eq_bytes_iff {strict : Bool} {text : List Char} :
    contents? strict 0 text = some (text.flatMap String.utf8EncodeChar) ↔
      ∀ c ∈ text, StandsForItself strict c := by
  constructor
  · intro h
    exact (length_le_of_contents? h).2 (Nat.le_of_eq (length_flatMap_utf8EncodeChar _).symm)
  · exact contents?_of_forall

end OvsdbModels.Go
