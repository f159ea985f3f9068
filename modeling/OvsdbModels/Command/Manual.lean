/-
  OvsdbModels/Command/Manual.lean
  ===============================
  The pages of the manual.
-/
import OvsdbModels.Command.Arguments

namespace OvsdbModels.Command

def joinLines (lines : List String) : String := String.join (lines.map (· ++ "\n"))

/-- The page about a subcommand that has a schema and no options of its own. -/
def simplePage (about name : String) : List String :=
  [about, "", "Usage: ovsgen " ++ name ++ " [OPTIONS] <SCHEMA>", "", "Arguments:",
    "  <SCHEMA>  Path to the OVSDB schema (e.g., vswitch.ovsschema)", "", "Options:",
    "  -v, --verbose...  Increase log verbosity (-v for info, -vv for debug)",
    "  -h, --help        Print help"]

def Page.lines : Page → List String
  | overview =>
    ["Generate Go models from OVSDB schemas", "", "Usage: ovsgen [OPTIONS] <COMMAND>", "",
      "Commands:",
      "  generate  Generate one Go file per table",
      "  check     Validate a schema and its mapping without generating code",
      "  list      List the tables of a schema",
      "  help      Print this message or the help of the given subcommand(s)", "", "Options:",
      "  -v, --verbose...  Increase log verbosity (-v for info, -vv for debug)",
      "  -h, --help        Print help",
      "  -V, --version     Print version"]
  | generate =>
    ["Generate one Go file per table", "", "Usage: ovsgen generate [OPTIONS] <SCHEMA>", "",
      "Arguments:",
      "  <SCHEMA>  Path to the OVSDB schema (e.g., vswitch.ovsschema)", "", "Options:",
      "  -p, --package <PACKAGE>  Go package name (defaults to \"ovsmodel\")",
      "  -v, --verbose...         Increase log verbosity (-v for info, -vv for debug)",
      "  -o, --output <OUTPUT>    Output directory (defaults to current directory)",
      "  -c, --config <CONFIG>    Path to ovsgen.toml (defaults to ./ovsgen.toml when present)",
      "      --dry-run            Preview generated code without writing to disk",
      "  -t, --table <TABLE>      Only generate the given table (repeatable)",
      "  -h, --help               Print help"]
  | check => simplePage "Validate a schema and its mapping without generating code" "check"
  | list => simplePage "List the tables of a schema" "list"
  | help =>
    ["Print this message or the help of the given subcommand(s)", "",
      "Usage: ovsgen help [COMMAND]", "", "Arguments:",
      "  [COMMAND]  Print help for the subcommand(s)"]

def Page.text (page : Page) : String := joinLines page.lines

def versionText : String := "ovsgen 0.5.0\n"

end OvsdbModels.Command
