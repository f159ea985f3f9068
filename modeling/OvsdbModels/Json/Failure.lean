/-
  OvsdbModels/Json/Failure.lean
  =============================
  The reasons why a document cannot be read, and their texts.

  A failure is of one of three kinds: the document is not JSON, it ends too early, or it is JSON of
  another shape than the one expected.
-/
import OvsdbModels.Json.Printer
import OvsdbModels.Text.Quoted

namespace OvsdbModels.Json

inductive Category where
  | malformed
  | truncated
  | misfit
  deriving DecidableEq, Repr

def Category.name : Category → String
  | malformed => "syntax"
  | truncated => "eof"
  | misfit => "data"

/-- What a document holds where something else was expected. -/
inductive Found where
  | null
  | boolean (b : Bool)
  | number (n : Number)
  | string (s : String)
  | array
  | object
  deriving DecidableEq, Repr, Inhabited

def Found.description : Found → String
  | null => "null"
  | boolean b => "boolean `" ++ (if b then "true" else "false") ++ "`"
  | number (.whole n) => "integer `" ++ toString n ++ "`"
  | number (.real x) => "floating point `" ++ Decimal.json x ++ "`"
  | string s => "string " ++ Text.quoted s
  | array => "sequence"
  | object => "map"

inductive Failure where
  | unfinishedArray
  | unfinishedObject
  | unfinishedString
  | unfinishedValue
  | expectedColon
  | expectedItemOrEnd
  | expectedMemberOrEnd
  | misspelledWord
  | expectedValue
  | invalidEscape
  | invalidNumber
  | numberOutOfRange
  | controlCharacter
  | nameNotString
  | loneSurrogate
  | trailingComma
  | trailingCharacters
  | unfinishedEscape
  | tooDeep
  /-- A value of another type than the one expected. -/
  | wrongType (found : Found) (expected : String)
  /-- A value of the right type that is not allowed. -/
  | wrongValue (found : Found) (expected : String)
  | repeatedField (name : String)
  | missingField (name : String)
  | wrongLength (length : Nat) (expected : String)
  | unknownVariant (name : String) (known : String)
  /-- A value that fits none of the forms which a union allows. -/
  | noForm (union : String)
  /-- A value of the right form that is refused for what it says. -/
  | refused (reason : String)
  deriving DecidableEq, Repr, Inhabited

namespace Failure

def category : Failure → Category
  | unfinishedArray => .truncated
  | unfinishedObject => .truncated
  | unfinishedString => .truncated
  | unfinishedValue => .truncated
  | wrongType _ _ => .misfit
  | wrongValue _ _ => .misfit
  | repeatedField _ => .misfit
  | missingField _ => .misfit
  | wrongLength _ _ => .misfit
  | unknownVariant _ _ => .misfit
  | noForm _ => .misfit
  | refused _ => .misfit
  | _ => .malformed

def message : Failure → String
  | unfinishedArray => "EOF while parsing a list"
  | unfinishedObject => "EOF while parsing an object"
  | unfinishedString => "EOF while parsing a string"
  | unfinishedValue => "EOF while parsing a value"
  | expectedColon => "expected `:`"
  | expectedItemOrEnd => "expected `,` or `]`"
  | expectedMemberOrEnd => "expected `,` or `\x7d`"
  | misspelledWord => "expected ident"
  | expectedValue => "expected value"
  | invalidEscape => "invalid escape"
  | invalidNumber => "invalid number"
  | numberOutOfRange => "number out of range"
  | controlCharacter => "control character (\\u0000-\\u001F) found while parsing a string"
  | nameNotString => "key must be a string"
  | loneSurrogate => "lone leading surrogate in hex escape"
  | trailingComma => "trailing comma"
  | trailingCharacters => "trailing characters"
  | unfinishedEscape => "unexpected end of hex escape"
  | tooDeep => "recursion limit exceeded"
  | wrongType found expected => "invalid type: " ++ found.description ++ ", expected " ++ expected
  | wrongValue found expected => "invalid value: " ++ found.description ++ ", expected " ++ expected
  | repeatedField name => "duplicate field `" ++ name ++ "`"
  | missingField name => "missing field `" ++ name ++ "`"
  | wrongLength length expected => "invalid length " ++ toString length ++ ", expected " ++ expected
  | unknownVariant name known => "unknown variant `" ++ name ++ "`, expected " ++ known
  | noForm union => "data did not match any variant of untagged enum " ++ union
  | refused reason => reason

end Failure

end OvsdbModels.Json
