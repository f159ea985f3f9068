/-
  OvsdbModels/Json/Document.lean
  ==============================
  Reading values of any shape, and passing over them.

  A value that is read may nest containers up to a limit.  One that is passed over may nest them
  without limit: the brackets that are still open are kept in a list.
-/
import OvsdbModels.Json.Text
import OvsdbModels.Json.Numeral

namespace OvsdbModels.Json

/-! ### Values -/

/-- The members of an object up to its end, each given to `step` with what came before it.  The
cursor that `step` gets is behind the member's name. -/
def membersLoop {σ : Type} (step : σ → String → Reader σ) : Nat → Bool → σ → Reader σ
  | 0, _, _ => failHere .unfinishedObject
  | fuel + 1, first, state => do
    if ← hasMember first then
      let name ← stringLiteral
      let state ← step state name
      membersLoop step fuel false state
    else pure state

/-- The members of an object up to its end, each given to `step` with what came before it. -/
def members {σ : Type} (step : σ → String → Reader σ) (initial : σ) : Reader σ := do
  membersLoop step (← fuel) true initial

/-- The members of an object up to its end, in order. -/
def memberList {α : Type} (item : Reader α) : Reader (List (String × α)) := do
  let reversed ← members (fun done name => do
    colon
    let a ← item
    pure ((name, a) :: done)) []
  pure reversed.reverse

/-- A value of any shape, with at most `depth` containers inside one another. -/
def value (depth : Nat) : Reader Value := do
  match ← peekPiece with
  | none => failNext .unfinishedValue
  | some 'n' =>
    word ['n', 'u', 'l', 'l']
    pure .null
  | some 't' =>
    word ['t', 'r', 'u', 'e']
    pure (.boolean true)
  | some 'f' =>
    word ['f', 'a', 'l', 's', 'e']
    pure (.boolean false)
  | some '"' => return .string (← stringLiteral)
  | some '[' =>
    match depth with
    | 0 => failNext .tooDeep
    | depth + 1 =>
      advance
      return .array (← enclosed (items (value depth)) endArray)
  | some '\x7b' =>
    match depth with
    | 0 => failNext .tooDeep
    | depth + 1 =>
      advance
      return .object (← enclosed (memberList (value depth)) endObject)
  | some c =>
    if c = '-' ∨ c.isDigit then return .number (← numeral) else failNext .expectedValue

/-! ### Values that are passed over -/

inductive Bracket where
  | square
  | curly
  deriving DecidableEq, Repr

/-- What comes next while a value is passed over. -/
inductive Expecting where
  | value
  /-- The first item of the innermost container, or its end. -/
  | first
  /-- A comma and another item of the innermost container, or its end. -/
  | more
  deriving DecidableEq, Repr

def passScalar (c : Char) : Reader Unit :=
  match c with
  | 'n' => word ['n', 'u', 'l', 'l']
  | 't' => word ['t', 'r', 'u', 'e']
  | 'f' => word ['f', 'a', 'l', 's', 'e']
  | '"' => passString
  | c => if c = '-' ∨ c.isDigit then passNumeral else failNext .expectedValue

/-- What stands in front of the value of an item: nothing in an array, the name in an object. -/
def passName : Bracket → Reader Unit
  | .square => pure ()
  | .curly => do
    match ← peekPiece with
    | none => failNext .unfinishedObject
    | some '"' =>
      passString
      colon
    | some _ => failNext .nameNotString

def Bracket.isClosedBy : Bracket → Char → Bool
  | .square, c => c = ']'
  | .curly, c => c = '\x7d'

/-- Passes over the rest of a value, of which the given brackets are open, the innermost first. -/
def passLoop : Nat → Expecting → List Bracket → Reader Unit
  | 0, _, _ => failHere .unfinishedValue
  | fuel + 1, .value, opened => do
    match ← peekPiece with
    | none => failNext .unfinishedValue
    | some '[' =>
      advance
      passLoop fuel .first (.square :: opened)
    | some '\x7b' =>
      advance
      passLoop fuel .first (.curly :: opened)
    | some c =>
      passScalar c
      passLoop fuel .more opened
  | _ + 1, _, [] => pure ()
  | fuel + 1, expecting, bracket :: outer => do
    match ← peekPiece with
    | none => failNext (match bracket with
        | .square => .unfinishedArray
        | .curly => .unfinishedObject)
    | some c =>
      if bracket.isClosedBy c then
        advance
        passLoop fuel .more outer
      else if expecting = .first then
        passName bracket
        passLoop fuel .value (bracket :: outer)
      else if c = ',' then
        advance
        passName bracket
        passLoop fuel .value (bracket :: outer)
      else failNext (match bracket with
        | .square => .expectedItemOrEnd
        | .curly => .expectedMemberOrEnd)

def passValue : Reader Unit := do
  passLoop (← fuel) .value []

end OvsdbModels.Json
