/-!
# Options and commands

What may stand on the command line: the commands, the options of each, and the one argument that
some of them take. Two options belong to the program itself and may stand before or after the name
of a command.
-/

namespace MarkLine.CommandLine

inductive Format where
  | text
  | json
  | compact
  deriving DecidableEq, Repr

def Format.ofName? : String → Option Format
  | "text" => some .text
  | "json" => some .json
  | "compact" => some .compact
  | _ => none

inductive CommandName where
  | compile
  | check
  | init
  deriving DecidableEq, Repr

def CommandName.ofText? : String → Option CommandName
  | "compile" => some .compile
  | "check" => some .check
  | "init" => some .init
  | _ => none

/-- Options that take no value. -/
inductive Switch where
  | verbose
  | force
  | help
  /-- The help option in its short spelling, which asks for less where there is more to say. -/
  | shortHelp
  | version
  deriving DecidableEq, Repr

/-- Options that take a value. -/
inductive Setting where
  | config
  | format
  deriving DecidableEq, Repr

inductive Opt where
  | switch (s : Switch)
  | setting (s : Setting)
  deriving DecidableEq, Repr

/-- Where on the command line an option stands: before the name of a command, or after it. -/
abbrev Scope := Option CommandName

/-- The options that are spelled with one letter. -/
def shortOption? (scope : Scope) (c : Char) : Option Opt :=
  match c, scope with
  | 'v', _ => some (.switch .verbose)
  | 'c', _ => some (.setting .config)
  | 'h', _ => some (.switch .shortHelp)
  | 'V', none => some (.switch .version)
  | 'f', some .compile | 'f', some .check => some (.setting .format)
  | _, _ => none

/-- The options that are spelled with a word. -/
def longOption? (scope : Scope) (name : String) : Option Opt :=
  match name, scope with
  | "verbose", _ => some (.switch .verbose)
  | "config", _ => some (.setting .config)
  | "help", _ => some (.switch .help)
  | "version", none => some (.switch .version)
  | "format", some .compile | "format", some .check => some (.setting .format)
  | "force", some .init => some (.switch .force)
  | _, _ => none

/-- How a switch is named in messages. -/
def Switch.shown : Switch → String
  | .verbose => "--verbose"
  | .force => "--force"
  | .help | .shortHelp => "--help"
  | .version => "--version"

/-- How a setting is named in messages. -/
def Setting.shown : Setting → String
  | .config => "--config <CONFIG>"
  | .format => "--format <FORMAT>"

/-- How the argument of a command is named in messages, for those that take one. -/
def argument? : Scope → Option String
  | some .compile => some "<FILE>"
  | some .check => some "[PATH]"
  | _ => none

/-! ## Faults -/

/-- What is wrong with a command line. -/
inductive UsageFault where
  | noCommand
  | unknownCommand (name : String)
  | unknownArgument (argument : String)
  | missingValue (option : String)
  | invalidFormat (value : String)
  | repeated (option : String)
  | needlessValue (option value : String)
  | missingFile
  deriving DecidableEq, Repr

/-- The first line of the message of a fault, and what follows it. -/
def UsageFault.message : UsageFault → String
  | .noCommand => "'lint-fixture' requires a subcommand but one was not provided"
  | .unknownCommand name => "unrecognized subcommand '" ++ name ++ "'"
  | .unknownArgument argument => "unexpected argument '" ++ argument ++ "' found"
  | .missingValue option => "a value is required for '" ++ option ++ "' but none was supplied"
  | .invalidFormat value =>
    "invalid value '" ++ value ++ "' for '--format <FORMAT>'\n" ++
      "  [possible values: text, json, compact]"
  | .repeated option => "the argument '" ++ option ++ "' cannot be used multiple times"
  | .needlessValue option value =>
    "unexpected value '" ++ value ++ "' for '" ++ option ++ "' found; no more were expected"
  | .missingFile => "the following required arguments were not provided:\n  <FILE>"

def UsageFault.print (fault : UsageFault) : String :=
  "error: " ++ fault.message ++ "\n\nFor more information, try '--help'.\n"

end MarkLine.CommandLine
