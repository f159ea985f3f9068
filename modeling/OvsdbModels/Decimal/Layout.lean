/-
  OvsdbModels/Decimal/Layout.lean
  ===============================
  The written forms of a double: in full for plain text, as a JSON number, and with a fixed number
  of decimal places.
-/
import OvsdbModels.Decimal.Shortest
import OvsdbModels.Text.Letter

namespace OvsdbModels.Decimal

/-! ### Digits and places -/

/-- Digits without the zeros at their end, and the number of zeros taken off. -/
def trimZeros (digits : List Char) : List Char × Nat :=
  let kept := digits.reverse.dropWhile (· = '0')
  (kept.reverse, digits.length - kept.length)

/-- The significant digits of a decimal, and the decimal exponent of the last of them. -/
def Digits.significant (d : Digits) : List Char × Int :=
  let (digits, zeros) := trimZeros (Nat.toDigits 10 d.coefficient)
  (digits, d.exponent + zeros)

/-- A number whose last digit has a negative exponent, with its point. -/
def withPoint (digits : List Char) (places : Nat) : List Char :=
  if places < digits.length then
    digits.take (digits.length - places) ++ '.' :: digits.drop (digits.length - places)
  else '0' :: '.' :: List.replicate (places - digits.length) '0' ++ digits

def inFull (digits : List Char) (exponent : Int) : List Char :=
  if exponent < 0 then withPoint digits (-exponent).toNat
  else digits ++ List.replicate exponent.toNat '0'

def signed (negative : Bool) (body : List Char) : String :=
  String.ofList (if negative then '-' :: body else body)

/-! ### Plain text -/

/-- A double in plain text: the fewest digits that read back, never an exponent. -/
def plain (x : Float) : String :=
  match Binary.ofFloat x with
  | .notANumber => "NaN"
  | .infinite negative => signed negative ['i', 'n', 'f']
  | .finite negative 0 _ => signed negative ['0']
  | .finite negative m q =>
    let (digits, exponent) := (shortest .up m q).significant
    signed negative (inFull digits exponent)

/-! ### JSON -/

/-- The exponent part of a number in scientific notation: a sign always, digits as needed. -/
def exponentPart (e : Int) : List Char :=
  'e' :: (if e < 0 then '-' else '+') :: Nat.toDigits 10 e.natAbs

/-- The digits of a JSON number: in full while the leading digit's exponent is from -5 to 15, with a
zero after the point of a whole number; in scientific notation otherwise. -/
def jsonDigits (digits : List Char) (exponent : Int) : List Char :=
  let lead := exponent + digits.length - 1
  if -5 ≤ lead ∧ lead < 16 then
    if exponent < 0 then inFull digits exponent else inFull digits exponent ++ ['.', '0']
  else
    match digits with
    | first :: [] => first :: exponentPart lead
    | first :: others => first :: '.' :: others ++ exponentPart lead
    | [] => []

/-- A finite double as a JSON number; JSON has no others, so `null` stands for them. -/
def json (x : Float) : String :=
  match Binary.ofFloat x with
  | .notANumber => "null"
  | .infinite _ => "null"
  | .finite negative 0 _ => signed negative ['0', '.', '0']
  | .finite negative m q =>
    let (digits, exponent) := (shortest .even m q).significant
    signed negative (jsonDigits digits exponent)

/-! ### Fixed places -/

/-- The quotient of two naturals, rounded to the nearest natural, a half to the even one. -/
def roundDiv (num den : Nat) : Nat :=
  let c := num / den
  match compare (2 * (num % den)) den with
  | .lt => c
  | .gt => c + 1
  | .eq => if c % 2 = 0 then c else c + 1

/-- A natural number of units of `10^-places`, written with a point. -/
def fixedDigits (places n : Nat) : List Char :=
  withPoint (Text.padded (places + 1) n) places

/-- A double rounded to the given number of decimal places, which are all written. -/
def fixed (places : Nat) (x : Float) : String :=
  match Binary.ofFloat x with
  | .notANumber => "NaN"
  | .infinite negative => signed negative ['i', 'n', 'f']
  | .finite negative m q =>
    let n := roundDiv (m * Nat.pow 2 q.toNat * Nat.pow 10 places) (Nat.pow 2 (-q).toNat)
    signed negative (fixedDigits places n)

end OvsdbModels.Decimal
