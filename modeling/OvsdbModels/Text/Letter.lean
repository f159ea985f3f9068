/-
  OvsdbModels/Text/Letter.lean
  ============================
  Letters and digits: the case mappings of characters and texts, the characters an identifier may
  hold, and the numbers that digits stand for.

  A character maps to a list of characters, because the upper case of `ß` is `SS`.  Lower casing
  looks at one context: a capital sigma that ends a word becomes `ς`, any other becomes `σ`.
  ASCII characters are decided by arithmetic alone and never reach the tables.
-/
import OvsdbModels.Text.CaseTable
import OvsdbModels.Text.CasedTable
import OvsdbModels.Text.LetterTable

namespace OvsdbModels.Text

/-- Whether the code point of `c` lies in one of the ranges. -/
def inRanges (ranges : List (Nat × Nat)) (c : Char) : Bool :=
  ranges.any fun (lo, hi) => decide (lo ≤ c.toNat) && decide (c.toNat ≤ hi)

/-- The image of a character above ASCII under a case table; itself where the table is silent. -/
def caseImage (runs : List CaseRun) (sequences : List (Nat × List Nat)) (c : Char) : List Char :=
  match sequences.lookup c.toNat with
  | some image => image.map Char.ofNat
  | none =>
    match runs.findSome? (·.image? c.toNat) with
    | some n => [Char.ofNat n]
    | none => [c]

/-! ### Case of one character -/

def upper (c : Char) : List Char :=
  if c.toNat < 128 then [c.toUpper] else caseImage upperRuns upperSequences c

/-- The lower case of a character that stands alone. -/
def lower (c : Char) : List Char :=
  if c.toNat < 128 then [c.toLower] else caseImage lowerRuns lowerSequences c

def isCased (c : Char) : Bool :=
  if c.toNat < 128 then c.isAlpha else inRanges casedRanges c

/-- Characters that are passed over when the letters beside a sigma are looked for. -/
def isCaseIgnorable (c : Char) : Bool :=
  if c.toNat < 128 then ['\'', '.', ':', '^', '\x60'].contains c else inRanges caseIgnorableRanges c

/-- Letters and digits of any script. -/
def isAlphanumeric (c : Char) : Bool :=
  if c.toNat < 128 then c.isAlphanum else inRanges alphanumericRanges c

/-! ### Case of a text -/

/-- Whether the first character that is not passed over has a letter case. -/
def meetsCased (s : List Char) : Bool :=
  match s.dropWhile isCaseIgnorable with
  | c :: _ => isCased c
  | [] => false

/-- Lower case of a text whose earlier characters, the nearest first, are `before`. -/
def lowerAfter (before : List Char) : List Char → List Char
  | [] => []
  | c :: rest =>
    let image :=
      if c = 'Σ' then
        if meetsCased before && !meetsCased rest then ['ς'] else ['σ']
      else lower c
    image ++ lowerAfter (c :: before) rest

def lowerAll (s : List Char) : List Char := lowerAfter [] s

def upperAll (s : List Char) : List Char := s.flatMap upper

/-- A capital first letter; the rest in lower case, each character on its own. -/
def titleCase : List Char → List Char
  | [] => []
  | c :: rest => upper c ++ rest.flatMap lower

/-- A capital first letter; the rest is kept. -/
def capitalize : List Char → List Char
  | [] => []
  | c :: rest => upper c ++ rest

/-! ### Decimal digits -/

def digitValue (c : Char) : Nat := c.toNat - '0'.toNat

def decimalNumber (digits : List Char) : Nat := digits.foldl (fun n c => 10 * n + digitValue c) 0

/-- The digits of a number, with zeros in front up to a width. -/
def padded (width n : Nat) : List Char :=
  let digits := Nat.toDigits 10 n
  List.replicate (width - digits.length) '0' ++ digits

/-! ### Hexadecimal digits -/

/-- The value of a hexadecimal digit, of either case. -/
def hexValue? (c : Char) : Option Nat :=
  if '0' ≤ c ∧ c ≤ '9' then some (digitValue c)
  else if 'a' ≤ c ∧ c ≤ 'f' then some (c.toNat - 'a'.toNat + 10)
  else if 'A' ≤ c ∧ c ≤ 'F' then some (c.toNat - 'A'.toNat + 10)
  else none

def hexNumber? (digits : List Char) : Option Nat :=
  digits.foldlM (fun n c => (hexValue? c).map (16 * n + ·)) 0

/-! ### ASCII -/

theorem upper_of_ascii {c : Char} (h : c.toNat < 128) : upper c = [c.toUpper] := by
  simp [upper, h]

theorem lower_of_ascii {c : Char} (h : c.toNat < 128) : lower c = [c.toLower] := by
  simp [lower, h]

theorem isAlphanumeric_of_ascii {c : Char} (h : c.toNat < 128) :
    isAlphanumeric c = c.isAlphanum := by
  simp [isAlphanumeric, h]

/-- The upper case of an ASCII text is the map of the characters' upper cases. -/
theorem upperAll_of_ascii {s : List Char} (h : ∀ c ∈ s, c.toNat < 128) :
    upperAll s = s.map Char.toUpper := by
  induction s with
  | nil => rfl
  | cons c rest ih =>
    have hc := h c (by simp)
    have hr := ih fun d hd => h d (by simp [hd])
    simp only [upperAll] at hr
    simp [upperAll, upper_of_ascii hc, hr]

theorem lowerAfter_of_ascii {s : List Char} (h : ∀ c ∈ s, c.toNat < 128) (before : List Char) :
    lowerAfter before s = s.map Char.toLower := by
  induction s generalizing before with
  | nil => rfl
  | cons c rest ih =>
    have hc := h c (by simp)
    have hs : c ≠ 'Σ' := by
      rintro rfl
      exact absurd hc (by decide)
    have hr := ih (fun d hd => h d (by simp [hd])) (c :: before)
    simp [lowerAfter, hs, lower_of_ascii hc, hr]

/-- The lower case of an ASCII text is the map of the characters' lower cases. -/
theorem lowerAll_of_ascii {s : List Char} (h : ∀ c ∈ s, c.toNat < 128) :
    lowerAll s = s.map Char.toLower :=
  lowerAfter_of_ascii h []

end OvsdbModels.Text
