/-
  OvsdbModels/Target.lean
  =======================
  A target language: how the generated code writes types, literals and constants.
-/
import OvsdbModels.Naming
import OvsdbModels.Schema.Atom

namespace OvsdbModels

structure Target where
  language : String
  /-- The type of an atomic value, if the language has one. -/
  atomic : AtomicType → Option String
  sequence : String → String
  mapping : String → String → String
  literal : Atom → String
  /-- The name of the constant of an enumeration's value, from the enumeration's alias. -/
  constantName : Naming → String → Atom → String

namespace Target

/-- The Go type of an atomic value; row identities are strings. -/
def goAtomic : AtomicType → Option String
  | .integer => some "int"
  | .real => some "float64"
  | .boolean => some "bool"
  | .string => some "string"
  | .uuid => some "string"
  | .unsupported _ => none

def goSequence (element : String) : String := "[]" ++ element

def goMapping (key value : String) : String := "map[" ++ key ++ "]" ++ value

def enquote (s : String) : String := "\"" ++ s ++ "\""

end Target

end OvsdbModels
