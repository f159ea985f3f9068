/-
  OvsdbModels/Json/Numeral.lean
  =============================
  Reading numbers.

  The digits are gathered into a 64-bit significand; digits beyond it only count for the exponent.
  A literal without point and exponent is whole if it fits 64 bits.  Any other is the significand,
  as a double, multiplied or divided by powers of ten, each step rounded to a double, so that it may
  differ from the nearest double in its last digit.
-/
import OvsdbModels.Json.Reader
import OvsdbModels.Text.Letter

namespace OvsdbModels.Json

def maxSignificand : Nat := 0xffffffffffffffff

def maxExponent : Nat := 0x7fffffff

/-! ### Digits -/

/-- Goes on with a number while digits follow and it stays within `limit`; gives the number, how
many digits were taken, and what is left. -/
def takeDigits (limit : Nat) : Nat → List Char → Nat × Nat × List Char
  | n, [] => (n, 0, [])
  | n, c :: rest =>
    if c.isDigit ∧ 10 * n + Text.digitValue c ≤ limit then
      let (n', count, left) := takeDigits limit (10 * n + Text.digitValue c) rest
      (n', count + 1, left)
    else (n, 0, c :: rest)

/-- Goes on with a number while digits follow and it stays within `limit`; gives the number and how
many digits were taken. -/
def digits (limit n : Nat) : Reader (Nat × Nat) := fun cursor =>
  let (n', count, left) := takeDigits limit n cursor.rest
  .ok (n', count) { cursor with rest := left, offset := cursor.offset + count }

def passDigits : Reader Nat := fun cursor =>
  let count := (cursor.rest.takeWhile Char.isDigit).length
  .ok count { cursor with
    rest := cursor.rest.dropWhile Char.isDigit, offset := cursor.offset + count }

def atDigit : Reader Bool := return (← peek).any Char.isDigit

/-! ### Scaling -/

def powerOfTen (n : Nat) : Float := Float.ofScientific 1 false n

/-- A double divided by a power of ten, in steps of at most `10^308`. -/
def shrink (x : Float) (n : Nat) : Float :=
  if n ≤ 308 then x / powerOfTen n
  else if x == 0.0 then x
  else shrink (x / powerOfTen 308) (n - 308)
termination_by n

/-- A significand times a power of ten; nothing if it is too large for a double. -/
def scale? (significand : Nat) (exponent : Int) : Option Float :=
  let x := significand.toUInt64.toFloat
  if exponent < 0 then some (shrink x exponent.natAbs)
  else if 308 < exponent then if x == 0.0 then some x else none
  else
    let y := x * powerOfTen exponent.natAbs
    if y.isInf then none else some y

def withSign (negative : Bool) (x : Float) : Float := if negative then -x else x

/-- The real number that a significand and an exponent stand for. -/
def realNumber (negative : Bool) (significand : Nat) (exponent : Int) : Reader Number := do
  match scale? significand exponent with
  | some x => pure (.real (withSign negative x))
  | none => failHere .numberOutOfRange

/-! ### The parts of a literal -/

def exponentSign : Reader Bool := do
  match ← peek with
  | some '+' =>
    advance
    pure false
  | some '-' =>
    advance
    pure true
  | _ => pure false

/-- The exponent of a literal, of which the letter is the next character. -/
def exponentPart (negative : Bool) (significand : Nat) (exponent : Int) : Reader Number := do
  advance
  let down ← exponentSign
  match ← peek with
  | none => failHere .unfinishedValue
  | some c =>
    if c.isDigit then
      let (n, _) ← digits maxExponent 0
      if ← atDigit then
        advance
        if significand ≠ 0 ∧ !down then failHere .numberOutOfRange
        else
          let _ ← passDigits
          pure (.real (withSign negative 0.0))
      else realNumber negative significand (if down then exponent - n else exponent + n)
    else failAhead 1 .invalidNumber

/-- Behind the digits of a literal: an exponent, or the end. -/
def afterDigits (negative : Bool) (significand : Nat) (exponent : Int) : Reader Number := do
  match ← peek with
  | some 'e' => exponentPart negative significand exponent
  | some 'E' => exponentPart negative significand exponent
  | _ => realNumber negative significand exponent

/-- The fraction of a literal, of which the point is the next character. -/
def fractionPart (negative : Bool) (significand : Nat) (exponent : Int) : Reader Number := do
  advance
  let (n, count) ← digits maxSignificand significand
  if ← atDigit then
    let _ ← passDigits
    afterDigits negative n (exponent - count)
  else if count = 0 then
    match ← peek with
    | none => failNext .unfinishedValue
    | some _ => failNext .invalidNumber
  else afterDigits negative n (exponent - count)

/-- A literal without point and exponent whose digits fit the significand. -/
def wholeNumber (negative : Bool) (n : Nat) : Number :=
  if negative then
    if n = 0 ∨ 0x8000000000000000 < n then .real (-n.toUInt64.toFloat) else .whole (-n)
  else .whole n

/-- Behind the whole digits of a literal, the last `surplus` of which are not in `n`. -/
def afterWhole (negative : Bool) (n : Nat) (surplus : Option Nat) : Reader Number := do
  match ← peek, surplus with
  | some '.', _ => fractionPart negative n (surplus.getD 0)
  | some 'e', _ => exponentPart negative n (surplus.getD 0)
  | some 'E', _ => exponentPart negative n (surplus.getD 0)
  | _, none => pure (wholeNumber negative n)
  | _, some count => realNumber negative n count

def unsignedNumber (negative : Bool) : Reader Number := do
  match ← peek with
  | none => failHere .unfinishedValue
  | some '0' =>
    advance
    if ← atDigit then failNext .invalidNumber else afterWhole negative 0 none
  | some c =>
    if c.isDigit then
      let (n, _) ← digits maxSignificand 0
      if ← atDigit then
        let surplus ← passDigits
        afterWhole negative n (some surplus)
      else afterWhole negative n none
    else failAhead 1 .invalidNumber

/-- A number, of which the sign or the first digit is the next character. -/
def numeral : Reader Number := do
  match ← peek with
  | some '-' =>
    advance
    unsignedNumber true
  | _ => unsignedNumber false

/-! ### Numbers that are passed over -/

/-- Passes over an exponent, of which the letter is the next character. -/
def passExponent : Reader Unit := do
  advance
  let _ ← exponentSign
  if ← atDigit then
    let _ ← passDigits
  else failNext .invalidNumber

/-- Passes over a number behind its sign; its size does not matter. -/
def passUnsigned : Reader Unit := do
  match ← peek with
  | some '0' =>
    advance
    if ← atDigit then failNext .invalidNumber
  | _ =>
    if ← atDigit then
      let _ ← passDigits
    else failNext .invalidNumber
  match ← peek with
  | some '.' =>
    advance
    if ← atDigit then
      let _ ← passDigits
      match ← peek with
      | some 'e' => passExponent
      | some 'E' => passExponent
      | _ => pure ()
    else failNext .invalidNumber
  | some 'e' => passExponent
  | some 'E' => passExponent
  | _ => pure ()

/-- Passes over a number, of which the sign or the first digit is the next character. -/
def passNumeral : Reader Unit := do
  match ← peek with
  | some '-' => advance
  | _ => pure ()
  passUnsigned

end OvsdbModels.Json
