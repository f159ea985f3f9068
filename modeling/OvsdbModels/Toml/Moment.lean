/-
  OvsdbModels/Toml/Moment.lean
  ============================
  Dates and times in a configuration file.

  A moment is a date, a time of day, or both; with both it may say how far the clock is ahead of
  universal time.  Its own text is fixed: `T` stands between date and time, the seconds are always
  there, and a fraction of a second is written without zeros at its end.
-/
import OvsdbModels.Text.Letter

namespace OvsdbModels.Toml

structure Date where
  year : Nat
  month : Nat
  day : Nat
  deriving DecidableEq, Repr

structure TimeOfDay where
  hour : Nat
  minute : Nat
  second : Nat
  nanosecond : Nat
  deriving DecidableEq, Repr

/-- How far a clock is ahead of universal time. -/
inductive UtcOffset where
  /-- Not at all, and said so by a letter. -/
  | zulu
  | minutes (n : Int)
  deriving DecidableEq, Repr

inductive Moment where
  | date (d : Date)
  | time (t : TimeOfDay)
  | both (d : Date) (t : TimeOfDay) (offset : Option UtcOffset)
  deriving DecidableEq, Repr

/-! ### Which dates and times there are -/

def isLeapYear (year : Nat) : Bool := year % 4 = 0 && (year % 100 ≠ 0 || year % 400 = 0)

def daysInMonth (year month : Nat) : Nat :=
  if month = 2 then if isLeapYear year then 29 else 28
  else if [4, 6, 9, 11].contains month then 30
  else 31

def Date.isValid (date : Date) : Bool :=
  decide (1 ≤ date.month ∧ date.month ≤ 12 ∧
    1 ≤ date.day ∧ date.day ≤ daysInMonth date.year date.month)

/-- Whether a time is on the clock, where a minute may have a leap second. -/
def TimeOfDay.isValid (time : TimeOfDay) : Bool :=
  decide (time.hour ≤ 23 ∧ time.minute ≤ 59 ∧ time.second ≤ 60)

/-! ### Reading -/

/-- A number of exactly `count` digits at the front of a text. -/
def fixedNumber (count : Nat) (s : List Char) : Option (Nat × List Char) :=
  let digits := s.take count
  if digits.length = count ∧ digits.all Char.isDigit then
    some (Text.decimalNumber digits, s.drop count)
  else none

/-- A text behind a character, which it has to begin with. -/
def behind? (c : Char) : List Char → Option (List Char)
  | d :: rest => if d = c then some rest else none
  | [] => none

def dateIn (s : List Char) : Option (Date × List Char) := do
  let (year, rest) ← fixedNumber 4 s
  let (month, rest) ← fixedNumber 2 (← behind? '-' rest)
  let (day, rest) ← fixedNumber 2 (← behind? '-' rest)
  let date : Date := { year, month, day }
  if date.isValid then some (date, rest) else none

/-- The nanoseconds that the digits behind a decimal point stand for; from the tenth digit on they
do not count. -/
def nanoseconds (digits : List Char) : Nat :=
  let counted := digits.take 9
  Text.decimalNumber (counted ++ List.replicate (9 - counted.length) '0')

/-- A fraction of a second, which may be left out. -/
def fractionIn (s : List Char) : Option (Nat × List Char) :=
  match s with
  | '.' :: rest =>
    match rest.takeWhile Char.isDigit with
    | [] => none
    | digits => some (nanoseconds digits, rest.dropWhile Char.isDigit)
  | rest => some (0, rest)

/-- The seconds of a time and their fraction, which may be left out. -/
def secondsIn (s : List Char) : Option (Nat × Nat × List Char) :=
  match s with
  | ':' :: rest => do
    let (second, rest) ← fixedNumber 2 rest
    let (nanosecond, rest) ← fractionIn rest
    some (second, nanosecond, rest)
  | rest => some (0, 0, rest)

/-- A time of day, as in `07:32`, `07:32:00` or `07:32:00.5`. -/
def timeIn (s : List Char) : Option (TimeOfDay × List Char) := do
  let (hour, rest) ← fixedNumber 2 s
  let (minute, rest) ← fixedNumber 2 (← behind? ':' rest)
  let (second, nanosecond, rest) ← secondsIn rest
  let time : TimeOfDay := { hour, minute, second, nanosecond }
  if time.isValid then some (time, rest) else none

/-- The minutes of an offset in hours and minutes, as in `07:00`. -/
def offsetMinutes (s : List Char) : Option (Nat × List Char) := do
  let (hours, rest) ← fixedNumber 2 s
  let (minutes, rest) ← fixedNumber 2 (← behind? ':' rest)
  if hours ≤ 23 ∧ minutes ≤ 59 then some (60 * hours + minutes, rest) else none

def offsetIn (s : List Char) : Option (Option UtcOffset × List Char) :=
  match s with
  | 'Z' :: rest => some (some .zulu, rest)
  | 'z' :: rest => some (some .zulu, rest)
  | '+' :: rest => (offsetMinutes rest).map fun (n, rest) => (some (.minutes n), rest)
  | '-' :: rest => (offsetMinutes rest).map fun (n, rest) => (some (.minutes (-n)), rest)
  | rest => some (none, rest)

/-- A text behind what separates a time from the date in front of it, if a time follows: a letter,
or one blank before a digit. -/
def timeBehind? : List Char → Option (List Char)
  | 'T' :: rest => some rest
  | 't' :: rest => some rest
  | ' ' :: c :: rest => if c.isDigit then some (c :: rest) else none
  | _ => none

def momentIn (s : List Char) : Option (Moment × List Char) :=
  match s.drop 2 with
  | ':' :: _ => (timeIn s).map fun (time, rest) => (.time time, rest)
  | _ => do
    let (date, rest) ← dateIn s
    match timeBehind? rest with
    | none => some (.date date, rest)
    | some rest =>
      let (time, rest) ← timeIn rest
      let (offset, rest) ← offsetIn rest
      some (.both date time offset, rest)

/-! ### Writing -/

def Date.text (date : Date) : List Char :=
  Text.padded 4 date.year ++ '-' :: Text.padded 2 date.month ++ '-' :: Text.padded 2 date.day

/-- The text of a fraction of a second, with its point; empty for none. -/
def fractionText (nanosecond : Nat) : List Char :=
  match ((Text.padded 9 nanosecond).reverse.dropWhile (· = '0')).reverse with
  | [] => []
  | digits => '.' :: digits

def TimeOfDay.text (time : TimeOfDay) : List Char :=
  Text.padded 2 time.hour ++ ':' :: Text.padded 2 time.minute ++
    ':' :: Text.padded 2 time.second ++ fractionText time.nanosecond

def UtcOffset.text : UtcOffset → List Char
  | zulu => ['Z']
  | minutes n =>
    (if n < 0 then '-' else '+') ::
      Text.padded 2 (n.natAbs / 60) ++ ':' :: Text.padded 2 (n.natAbs % 60)

def Moment.text : Moment → String
  | date d => String.ofList d.text
  | time t => String.ofList t.text
  | both d t none => String.ofList (d.text ++ 'T' :: t.text)
  | both d t (some offset) => String.ofList (d.text ++ 'T' :: t.text ++ offset.text)

/-- The name that a moment's text stands under where a moment is taken for a table. -/
def Moment.entryName : String := "$__toml_private_datetime"

end OvsdbModels.Toml
