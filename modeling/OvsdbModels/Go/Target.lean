/-
  OvsdbModels/Go/Target.lean
  ==========================
  Go as a target language: the literals of its constants and their names.

  In a name a string is written like a column.  Other values are spelled out: `Neg` stands for a
  minus sign and `_` for a decimal point.  What cannot stand in an identifier is left out.
-/
import OvsdbModels.Target

namespace OvsdbModels.Go

/-- The text of a literal in a constant declaration: a real has six decimal places, a string stands
between double quotes as it is. -/
def literal : Atom → String
  | .integer n => toString n.toInt
  | .real x => Decimal.fixed 6 x
  | .boolean b => if b then "true" else "false"
  | .string s => Target.enquote s

/-- A number spelled out for an identifier. -/
def spelled : List Char → List Char
  | '-' :: digits => ['N', 'e', 'g'] ++ digits
  | digits => digits

/-- The characters that may stand in a constant's name. -/
def isNameChar (c : Char) : Bool := Text.isAlphanumeric c || c = '_'

/-- What the name of a value's constant adds to the enumeration's name, before characters are left
out. -/
def rawSuffix (naming : Naming) : Atom → List Char
  | .string s => (naming.normalize s).toList
  | .integer n => spelled (toString n.toInt).toList
  | .real x => spelled ((Decimal.plain x).toList.map fun c => if c = '.' then '_' else c)
  | .boolean true => ['T', 'r', 'u', 'e']
  | .boolean false => ['F', 'a', 'l', 's', 'e']

/-- The name of the constant of an enumeration's value. -/
def constantName (naming : Naming) (enumName : String) (value : Atom) : String :=
  enumName ++ String.ofList ((rawSuffix naming value).filter isNameChar)

def target : Target where
  language := "go"
  atomic := Target.goAtomic
  sequence := Target.goSequence
  mapping := Target.goMapping
  literal := literal
  constantName := constantName

end OvsdbModels.Go
