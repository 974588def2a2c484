import MarkLine.CommandLine.Usage

/-!
# Help

The help texts of the program and of its commands. The commands that print reports have a short
text and a long one, which also explains the formats.
-/

namespace MarkLine.CommandLine

def version : String := "lint-fixture 0.1.0\n"

def about : String := "CLI tool for compiling and checking lint-fixture suite files"

def programHelp : String :=
  about ++ "\n\n" ++
  "Usage: lint-fixture [OPTIONS] <COMMAND>\n\n" ++
  "Commands:\n" ++
  "  compile  Compile one suite file and print its failure cases\n" ++
  "  check    Discover and compile every suite file\n" ++
  "  init     Initialize configuration file\n" ++
  "  help     Print this message or the help of the given subcommand(s)\n\n" ++
  "Options:\n" ++
  "  -v, --verbose          Enable verbose output\n" ++
  "  -c, --config <CONFIG>  Path to configuration file\n" ++
  "  -h, --help             Print help\n" ++
  "  -V, --version          Print version\n"

def helpHelp : String :=
  "Print this message or the help of the given subcommand(s)\n\n" ++
  "Usage: lint-fixture help [COMMAND]\n\n" ++
  "Commands:\n" ++
  "  compile  Compile one suite file and print its failure cases\n" ++
  "  check    Discover and compile every suite file\n" ++
  "  init     Initialize configuration file\n" ++
  "  help     Print this message or the help of the given subcommand(s)\n"

/-- The options that a command with a format has, in the short help. -/
def shortOptions : String :=
  "Options:\n" ++
  "  -f, --format <FORMAT>  Output format [default: text] " ++
  "[possible values: text, json, compact]\n" ++
  "  -v, --verbose          Enable verbose output\n" ++
  "  -c, --config <CONFIG>  Path to configuration file\n" ++
  "  -h, --help             Print help (see more with '--help')\n"

/-- The options that a command with a format has, in the long help. -/
def longOptions : String :=
  "Options:\n" ++
  "  -f, --format <FORMAT>\n" ++
  "          Output format\n\n" ++
  "          Possible values:\n" ++
  "          - text:    Human-readable text output\n" ++
  "          - json:    JSON output\n" ++
  "          - compact: One-line-per-error compact format\n" ++
  "          \n" ++
  "          [default: text]\n\n" ++
  "  -v, --verbose\n" ++
  "          Enable verbose output\n\n" ++
  "  -c, --config <CONFIG>\n" ++
  "          Path to configuration file\n\n" ++
  "  -h, --help\n" ++
  "          Print help (see a summary with '-h')\n"

/-- The help on a command, long or short. -/
def commandHelp (long : Bool) : CommandName → String
  | .compile =>
    "Compile one suite file and print its failure cases\n\n" ++
    "Usage: lint-fixture compile [OPTIONS] <FILE>\n\n" ++
    "Arguments:\n" ++
    (if long then "  <FILE>\n          Suite file to compile\n\n" ++ longOptions
     else "  <FILE>  Suite file to compile\n\n" ++ shortOptions)
  | .check =>
    "Discover and compile every suite file\n\n" ++
    "Usage: lint-fixture check [OPTIONS] [PATH]\n\n" ++
    "Arguments:\n" ++
    (if long then
      "  [PATH]\n          Project directory (default: current directory)\n          \n" ++
        "          [default: .]\n\n" ++ longOptions
     else
      "  [PATH]  Project directory (default: current directory) [default: .]\n\n" ++ shortOptions)
  | .init =>
    "Initialize configuration file\n\n" ++
    "Usage: lint-fixture init [OPTIONS]\n\n" ++
    "Options:\n" ++
    "      --force            Overwrite existing config\n" ++
    "  -v, --verbose          Enable verbose output\n" ++
    "  -c, --config <CONFIG>  Path to configuration file\n" ++
    "  -h, --help             Print help\n"

def helpFor (long : Bool) : Scope → String
  | none => programHelp
  | some name => commandHelp long name

end MarkLine.CommandLine
