/-
  OvsdbModels/Schema/Atom.lean
  ============================
  Atomic types and the literal values of enumerations.

  A type name that the schema language does not know is kept, so that the column it stands in can
  be named when the type turns out to have no counterpart in the generated code.
-/
import OvsdbModels.Json.Value
import OvsdbModels.Decimal.Layout

namespace OvsdbModels

inductive AtomicType where
  | integer
  | real
  | boolean
  | string
  | uuid
  | unsupported (name : String)
  deriving DecidableEq, Repr, Inhabited

namespace AtomicType

def name : AtomicType → String
  | integer => "integer"
  | real => "real"
  | boolean => "boolean"
  | string => "string"
  | uuid => "uuid"
  | unsupported name => name

def ofName (name : String) : AtomicType :=
  if name = "integer" then integer
  else if name = "real" then real
  else if name = "boolean" then boolean
  else if name = "string" then string
  else if name = "uuid" then uuid
  else unsupported name

/-- Whether the schema language knows the type. -/
def isSupported : AtomicType → Bool
  | unsupported _ => false
  | _ => true

theorem name_ofName (name : String) : (ofName name).name = name := by
  unfold ofName
  repeat' split
  all_goals simp_all [AtomicType.name]

end AtomicType

inductive Atom where
  | integer (n : Int64)
  | real (x : Float)
  | boolean (b : Bool)
  | string (s : String)
  deriving DecidableEq, Repr, Inhabited

namespace Atom

def atomicType : Atom → AtomicType
  | integer _ => .integer
  | real _ => .real
  | boolean _ => .boolean
  | string _ => .string

/-- Whether the literal is a value of the type: its own type and no other, so a type that is not
supported and the type of row identities have no literals. -/
def isOfType (atom : Atom) (type : AtomicType) : Bool := atom.atomicType = type

/-- The pairs of a literal and a type that match. -/
theorem isOfType_eq_true_iff {atom : Atom} {type : AtomicType} :
    atom.isOfType type = true ↔
      (∃ n, atom = integer n ∧ type = .integer) ∨ (∃ x, atom = real x ∧ type = .real) ∨
        (∃ b, atom = boolean b ∧ type = .boolean) ∨ ∃ s, atom = string s ∧ type = .string := by
  cases atom <;> simp [isOfType, atomicType, eq_comm]

/-- The literal in plain text, a string without quotes. -/
def text : Atom → String
  | integer n => toString n.toInt
  | real x => Decimal.plain x
  | boolean b => if b then "true" else "false"
  | string s => s

def toJson : Atom → Json.Value
  | integer n => .number (.whole n.toInt)
  | real x => .number (.real x)
  | boolean b => .boolean b
  | string s => .string s

end Atom

end OvsdbModels
