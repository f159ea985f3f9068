/-
  OvsdbModels/Schema/Error.lean
  =============================
  The errors of a schema, with their texts, codes, hints and marked places.
-/
import OvsdbModels.Json.Failure
import OvsdbModels.Schema.Atom
import OvsdbModels.Text.Position

namespace OvsdbModels

open Text (Position Span)

inductive SchemaError where
  /-- The file cannot be read. -/
  | unreadable (path : String)
  /-- The document cannot be read as a schema. -/
  | unparsable (failure : Json.Failure) (position : Position) (span : Option Span)
  | invalidVersion (version : String)
  | reservedColumn (table column : String) (span : Option Span)
  /-- A literal of an enumeration is not of the enumeration's type. -/
  | literalMismatch (table column : String) (literal : Atom) (expected : AtomicType)
      (span : Option Span)
  /-- A reference points to a table that the schema does not have. -/
  | unknownRefTable (table column refTable : String) (span : Option Span)
  deriving DecidableEq, Repr

structure Label where
  text : String
  span : Span
  deriving DecidableEq, Repr

namespace SchemaError

def message : SchemaError → String
  | unreadable path => "failed to read '" ++ path ++ "'"
  | unparsable _ _ _ => "failed to parse OVSDB schema"
  | invalidVersion version => "invalid schema version '" ++ version ++ "', expected 'X.Y.Z'"
  | reservedColumn table column _ =>
    "column '" ++ column ++ "' in table '" ++ table ++ "' uses a reserved name"
  | literalMismatch table column literal expected _ =>
    "enum value " ++ literal.toJson.text ++ " of column '" ++ table ++ "." ++ column ++
      "' is not of type " ++ expected.name
  | unknownRefTable table column refTable _ =>
    "column '" ++ table ++ "." ++ column ++ "' references unknown table '" ++ refTable ++ "'"

def code? : SchemaError → Option String
  | unreadable _ => none
  | unparsable _ _ _ => some "ovsgen::parse_error"
  | invalidVersion _ => some "ovsgen::validation_error"
  | reservedColumn _ _ _ => some "ovsgen::reserved_column"
  | literalMismatch _ _ _ _ _ => some "ovsgen::enum_type_mismatch"
  | unknownRefTable _ _ _ _ => some "ovsgen::unknown_ref_table"

def help? : SchemaError → Option String
  | unreadable _ => some "pass the path to an OVSDB schema, e.g. 'vswitch.ovsschema'"
  | reservedColumn _ _ _ => some "column names starting with '_' are reserved by OVSDB"
  | _ => none

def span? : SchemaError → Option Span
  | unparsable _ _ span => span
  | reservedColumn _ _ span => span
  | literalMismatch _ _ _ _ span => span
  | unknownRefTable _ _ _ span => span
  | _ => none

def labelText : SchemaError → String
  | unparsable _ _ _ => "parse error here"
  | reservedColumn _ _ _ => "reserved name"
  | literalMismatch _ _ _ expected _ => "expected " ++ expected.name
  | unknownRefTable _ _ _ _ => "unknown table"
  | error => error.message

def labels (error : SchemaError) : List Label :=
  error.span?.toList.map fun span => ⟨error.labelText, span⟩

end SchemaError

end OvsdbModels
