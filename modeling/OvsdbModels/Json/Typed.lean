/-
  OvsdbModels/Json/Typed.lean
  ===========================
  Reading values of an expected type, and the fields of records.

  A record is written as an object, whose unknown members are passed over, or as an array of its
  fields in their order.
-/
import OvsdbModels.Json.Document

namespace OvsdbModels.Json

/-! ### Scalars -/

/-- Fails because the next value is not of the expected type.  Scalars are read before the failure
is placed; of a container only the kind counts. -/
def unexpected {α : Type} (expected : String) : Reader α := do
  match ← peekPiece with
  | none => failNext .unfinishedValue
  | some 'n' =>
    word ['n', 'u', 'l', 'l']
    failHere (.wrongType .null expected)
  | some 't' =>
    word ['t', 'r', 'u', 'e']
    failHere (.wrongType (.boolean true) expected)
  | some 'f' =>
    word ['f', 'a', 'l', 's', 'e']
    failHere (.wrongType (.boolean false) expected)
  | some '"' =>
    let s ← stringLiteral
    failHere (.wrongType (.string s) expected)
  | some '[' => failHere (.wrongType .array expected)
  | some '\x7b' => failHere (.wrongType .object expected)
  | some c =>
    if c = '-' ∨ c.isDigit then
      let n ← numeral
      failHere (.wrongType (.number n) expected)
    else failNext .expectedValue

/-- A string, described by `expected` if there is none. -/
def stringAs (expected : String) : Reader String := do
  match ← peekPiece with
  | some '"' => stringLiteral
  | _ => unexpected expected

def string : Reader String := stringAs "a string"

def boolean : Reader Bool := do
  match ← peekPiece with
  | some 't' =>
    word ['t', 'r', 'u', 'e']
    pure true
  | some 'f' =>
    word ['f', 'a', 'l', 's', 'e']
    pure false
  | _ => unexpected "a boolean"

def nothing : Reader Unit := do
  match ← peekPiece with
  | some 'n' => word ['n', 'u', 'l', 'l']
  | _ => unexpected "unit"

def natural : Reader UInt64 := do
  match ← peekPiece with
  | some c =>
    if c = '-' ∨ c.isDigit then
      match ← numeral with
      | .whole n =>
        if 0 ≤ n then pure (UInt64.ofNat n.toNat)
        else failHere (.wrongValue (.number (.whole n)) "u64")
      | .real x => failHere (.wrongType (.number (.real x)) "u64")
    else unexpected "u64"
  | none => unexpected "u64"

def optional {α : Type} (item : Reader α) : Reader (Option α) := do
  match ← peekPiece with
  | some 'n' =>
    word ['n', 'u', 'l', 'l']
    pure none
  | _ => return some (← item)

/-! ### Containers -/

def list {α : Type} (item : Nat → Reader α) (depth : Nat) : Reader (List α) := do
  match ← peekPiece with
  | some '[' => inArray depth fun depth => items (item depth)
  | _ => unexpected "a sequence"

/-- A map from names; of members with one name the last counts. -/
def nameMap {α : Type} (item : Nat → Reader α) (depth : Nat) : Reader (NameMap α) := do
  match ← peekPiece with
  | some '\x7b' =>
    inObject depth fun depth =>
      members (fun map name => do
        colon
        let a ← item depth
        pure (map.insert name a)) NameMap.empty
  | _ => unexpected "a map"

/-! ### Records -/

/-- A record, by its members or by its fields in order. -/
def record {α : Type} (name : String) (byMembers inOrder : Nat → Reader α) (depth : Nat) :
    Reader α := do
  match ← peekPiece with
  | some '\x7b' => inObject depth byMembers
  | some '[' => inArray depth inOrder
  | _ => unexpected ("struct " ++ name)

/-- The value of a member that may occur once, behind its name. -/
def once {α : Type} (name : String) (before : Option α) (item : Reader α) : Reader (Option α) :=
  match before with
  | some _ => failWhole (.repeatedField name)
  | none => do
    colon
    return some (← item)

/-- The value of an unknown member, behind its name. -/
def passMember : Reader Unit := do
  colon
  passValue

def required {α : Type} (name : String) : Option α → Reader α
  | some a => pure a
  | none => failWhole (.missingField name)

/-- The field at a position of a record that is written as an array; `shape` describes the
record. -/
def fieldAt {α : Type} (shape : String) (position : Nat) (item : Reader α) : Reader α := do
  if ← hasItem (position = 0) then item else failWhole (.wrongLength position shape)

/-- A field at a position of a record that is written as an array; it may be left out at the end. -/
def fieldAtD {α : Type} (position : Nat) (default : α) (item : Reader α) : Reader α := do
  if ← hasItem (position = 0) then item else pure default

/-! ### Fields of a value that has been read -/

/-- The value of the only member of a name; `none` where the name is repeated, `some none` where it
does not occur. -/
def single? (name : String) (members : List (String × Value)) : Option (Option Value) :=
  match members.filter (·.1 = name) with
  | [] => some none
  | [m] => some (some m.2)
  | _ => none

/-- The fields of a record with the given names: the members of an object, none of them repeated, or
the items of an array of that length. -/
def Value.fields? (names : List String) : Value → Option (List (Option Value))
  | .object members => names.mapM (single? · members)
  | .array items => if items.length = names.length then some (items.map some) else none
  | _ => none

def Value.string? : Value → Option String
  | .string s => some s
  | _ => none

def Value.natural? : Value → Option UInt64
  | .number (.whole n) =>
    if 0 ≤ n ∧ n < 0x10000000000000000 then some (UInt64.ofNat n.toNat) else none
  | _ => none

def Value.integer? : Value → Option Int64
  | .number (.whole n) =>
    if -0x8000000000000000 ≤ n ∧ n < 0x8000000000000000 then some (Int64.ofInt n) else none
  | _ => none

def Number.toFloat : Number → Float
  | .whole n => if n < 0 then -n.natAbs.toUInt64.toFloat else n.natAbs.toUInt64.toFloat
  | .real x => x

/-- The double that a value is, or that is nearest to the integer that it is. -/
def Value.real? : Value → Option Float
  | .number n => some n.toFloat
  | _ => none

/-- A field that may be left out or `null`; `none` where its value does not fit. -/
def optionalField? {α : Type} (item : Value → Option α) : Option Value → Option (Option α)
  | none => some none
  | some .null => some none
  | some v => (item v).map some

end OvsdbModels.Json
