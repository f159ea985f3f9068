/-
  OvsdbModels/Json/Value.lean
  ===========================
  JSON values.  Numbers are whole or real by the way they are written; members keep their order and
  their repetitions.
-/
import OvsdbModels.NameMap

namespace OvsdbModels.Json

inductive Number where
  /-- A literal without point or exponent that fits a 64-bit integer, signed or unsigned. -/
  | whole (n : Int)
  /-- Any other literal. -/
  | real (x : Float)
  deriving DecidableEq, Repr, Inhabited

/-- A JSON value as it stands in a document. -/
inductive Value where
  | null
  | boolean (b : Bool)
  | number (n : Number)
  | string (s : String)
  | array (items : List Value)
  | object (members : List (String × Value))
  deriving Inhabited

/-! ### Canonical form -/

mutual

/-- The value with the members of every object in ascending order of their names, and of members
with one name only the last. -/
def Value.canonical : Value → Value
  | .array items => .array (canonicalItems items)
  | .object members => .object (NameMap.ofList (canonicalMembers members)).entries
  | v => v

/-- The canonical forms of the items of an array. -/
def canonicalItems : List Value → List Value
  | [] => []
  | v :: rest => v.canonical :: canonicalItems rest

/-- The members of an object with the canonical forms of their values. -/
def canonicalMembers : List (String × Value) → List (String × Value)
  | [] => []
  | (name, v) :: rest => (name, v.canonical) :: canonicalMembers rest

end

end OvsdbModels.Json
