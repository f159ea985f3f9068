/-
  OvsdbModels/Decimal/Shortest.lean
  =================================
  What a floating-point number is, and the shortest decimal that reads back as a given one.

  A double is nothing, an infinity, or a signed `m · 2^q` with natural `m`.

  A positive double `m · 2^q` stands for all reals that round to it: those between the midpoints to
  its two neighbours, the midpoints included exactly when `m` is even.  On a decimal grid the only
  candidates are the value's two neighbours, for if any point of the grid lies in that interval then
  so does one of them.  The grids are tried from coarse to fine; the first that has a candidate
  gives the digits, and of two candidates on it the nearer wins.  All comparisons are between
  natural numbers.
-/

namespace OvsdbModels.Decimal

inductive Binary where
  | notANumber
  | infinite (negative : Bool)
  /-- The number `± m · 2^q`, with `m < 2^53` and `-1074 ≤ q`. -/
  | finite (negative : Bool) (m : Nat) (q : Int)
  deriving DecidableEq, Repr

/-- The leading bit of the significand of a normal number, `2^52`; it is not stored. -/
def leadingBit : Nat := 0x10000000000000

/-- The value of a double, read off its sign bit, eleven exponent bits and 52 fraction bits. -/
def Binary.ofFloat (x : Float) : Binary :=
  let bits : Nat := x.toBits.toNat
  let negative := decide (bits / 0x8000000000000000 = 1)
  let exponent : Nat := bits / leadingBit % 0x800
  let fraction : Nat := bits % leadingBit
  if exponent = 2047 then
    if fraction = 0 then .infinite negative else .notANumber
  else if exponent = 0 then .finite negative fraction (-1074)
  else .finite negative (leadingBit + fraction) (Int.ofNat exponent - 1075)

/-! ### Decimals that round to a number -/

structure Digits where
  coefficient : Nat
  exponent : Int
  deriving DecidableEq, Repr

/-- Which of two equally near candidates is taken. -/
inductive Tie where
  | up
  | even
  deriving DecidableEq, Repr

/-- Two naturals whose quotient, times `m`, is `m · 2^q` counted in units of `10^k`. -/
def gridScale (q k : Int) : Nat × Nat :=
  (Nat.pow 2 q.toNat * Nat.pow 10 (-k).toNat, Nat.pow 2 (-q).toNat * Nat.pow 10 k.toNat)

/-- Whether `c` units of `10^k` round to the double `m · 2^q`, where `(a, b)` is the grid's scale.
The gap below a power of two is half as wide as the gap above it. -/
def roundsTo (m : Nat) (q : Int) (a b c : Nat) : Bool :=
  let low := (4 * m - if m = leadingBit ∧ -1074 < q then 1 else 2) * a
  let high := (4 * m + 2) * a
  let point := 4 * c * b
  if m % 2 = 0 then decide (low ≤ point) && decide (point ≤ high)
  else decide (low < point) && decide (point < high)

/-- The nearer of the grid points `c` and `c + 1` to `m · a / b`. -/
def nearer (tie : Tie) (m a b c : Nat) : Nat :=
  match compare (2 * m * a) ((2 * c + 1) * b) with
  | .lt => c
  | .gt => c + 1
  | .eq =>
    match tie with
    | .up => c + 1
    | .even => if c % 2 = 0 then c else c + 1

/-- The point of the grid `10^k` that stands for the double `m · 2^q`, if there is one. -/
def onGrid? (tie : Tie) (m : Nat) (q k : Int) : Option Nat :=
  let (a, b) := gridScale q k
  let c := m * a / b
  match roundsTo m q a b c, roundsTo m q a b (c + 1) with
  | true, true => some (nearer tie m a b c)
  | true, false => some c
  | false, true => some (c + 1)
  | false, false => none

def digitCount (n : Nat) : Nat := (Nat.toDigits 10 n).length

/-- The decimal exponent of the leading digit of a positive `m · 2^q`. -/
def leadingExponent (m : Nat) (q : Int) : Int :=
  let num := m * Nat.pow 2 q.toNat
  let den := Nat.pow 2 (-q).toNat
  if den ≤ num then (digitCount (num / den) : Int) - 1
  else -(digitCount ((den + num - 1) / num - 1) : Int)

/-- The shortest decimal that reads back as the positive double `m · 2^q`; seventeen digits are
always enough. -/
def shortest (tie : Tie) (m : Nat) (q : Int) : Digits :=
  let lead := leadingExponent m q
  let found := (List.range 17).findSome? fun (i : Nat) =>
    let k := lead - (i : Int)
    (onGrid? tie m q k).map fun c => (⟨c, k⟩ : Digits)
  found.getD ⟨0, 0⟩

end OvsdbModels.Decimal
