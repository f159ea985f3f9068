/-
  OvsdbModels/Naming.lean
  =======================
  Names: how the identifiers of a schema become names in the generated code.

  A column name is cut into words at `_` and `-`, and every word is capitalised on its own; a word
  that is a known initialism is written in capitals, and so is the stem of its plural.  A table
  name only loses its underscores and gets a capital first letter.
-/
import OvsdbModels.Text.Letter
import OvsdbModels.Text.Split

namespace OvsdbModels

open Text

/-- Naming rules: the initialisms, in upper case, that are written in capitals. -/
structure Naming where
  initialisms : List String
  deriving DecidableEq, Repr

namespace Naming

/-- Naming rules for the schemas of Open vSwitch and OVN. -/
def ovsdb : Naming where
  initialisms :=
    ["ACL", "BFD", "CFM", "CT", "CVLAN", "DNS", "DSCP", "ID", "IP", "IPFIX", "LACP", "LLDP", "MAC",
      "MTU", "OVS", "QOS", "RSTP", "SSL", "STP", "TCP", "SCTP", "UDP", "UUID", "VLAN", "STT",
      "DNAT", "SNAT", "ICMP", "SLB"]

instance : Inhabited Naming := ⟨ovsdb⟩

/-- Whether a word in upper case is a known initialism. -/
def isInitialism (naming : Naming) (word : String) : Bool :=
  naming.initialisms.contains word

/-- The characters that separate the words of an identifier. -/
def isSeparator (c : Char) : Bool := c = '_' || c = '-'

/-! ### Words -/

/-- The stem of a word that ends in `s`. -/
def singular? (word : List Char) : Option (List Char) :=
  match word.getLast? with
  | some 's' => some word.dropLast
  | _ => none

/-- One word of a name, given in lower case: an initialism in capitals, the plural of an initialism
with a small `s`, any other word with a capital first letter. -/
def word (naming : Naming) (w : List Char) : List Char :=
  if naming.isInitialism (String.ofList (upperAll w)) then upperAll w
  else
    match singular? w with
    | some stem =>
      if naming.isInitialism (String.ofList (upperAll stem)) then upperAll stem ++ ['s']
      else titleCase w
    | none => titleCase w

/-- The name of an identifier: its words, each written by `word`, without the separators. -/
def normalize (naming : Naming) (ident : String) : String :=
  String.ofList ((words isSeparator (lowerAll ident.toList)).flatMap naming.word)

/-! ### Names of types and files -/

/-- The name of a table's record type: no underscores, a capital first letter. -/
def typeName (table : String) : String :=
  String.ofList (capitalize (table.toList.filter (· ≠ '_')))

/-- The name of the type of an enumerated column. -/
def enumAlias (naming : Naming) (table column : String) : String :=
  typeName table ++ naming.normalize column

/-- The name of the file that holds a table's model. -/
def fileName (table extension : String) : String :=
  String.ofList (lowerAll table.toList) ++ "." ++ extension

end Naming

end OvsdbModels
