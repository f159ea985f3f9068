/-
  OvsdbModels/Json/Printer.lean
  =============================
  The compact text of a JSON value: no blanks, members in the order they have.
-/
import OvsdbModels.Json.Value
import OvsdbModels.Decimal.Layout

namespace OvsdbModels.Json

/-- A digit of a `\u` escape, in lower case. -/
def hexDigit (n : Nat) : Char := Nat.digitChar (n % 16)

/-- One character of a JSON string: quotes, backslashes and control characters are escaped. -/
def escapeChar (c : Char) : List Char :=
  match c with
  | '"' => ['\\', '"']
  | '\\' => ['\\', '\\']
  | '\x08' => ['\\', 'b']
  | '\x0c' => ['\\', 'f']
  | '\n' => ['\\', 'n']
  | '\r' => ['\\', 'r']
  | '\t' => ['\\', 't']
  | c =>
    if c.toNat < 0x20 then ['\\', 'u', '0', '0', hexDigit (c.toNat / 16), hexDigit c.toNat]
    else [c]

def stringText (s : String) : String :=
  String.ofList ('"' :: s.toList.flatMap escapeChar ++ ['"'])

def Number.text : Number → String
  | .whole n => toString n
  | .real x => Decimal.json x

/-- The texts of members or items with commas between them. -/
def commaSeparated (parts : List String) : String := ",".intercalate parts

mutual

def Value.text : Value → String
  | .null => "null"
  | .boolean true => "true"
  | .boolean false => "false"
  | .number n => n.text
  | .string s => stringText s
  | .array items => "[" ++ commaSeparated (itemTexts items) ++ "]"
  | .object members => "\x7b" ++ commaSeparated (memberTexts members) ++ "\x7d"

def itemTexts : List Value → List String
  | [] => []
  | v :: rest => v.text :: itemTexts rest

def memberTexts : List (String × Value) → List String
  | [] => []
  | (name, v) :: rest => (stringText name ++ ":" ++ v.text) :: memberTexts rest

end

end OvsdbModels.Json
