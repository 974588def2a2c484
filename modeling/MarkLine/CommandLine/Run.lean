import MarkLine.CommandLine.Arguments
import MarkLine.Config.Origin
import MarkLine.Discovery
import MarkLine.Report.Compact
import MarkLine.Report.Json
import MarkLine.Report.Text

/-!
# Running a command

A run takes a world and a command line and gives an outcome: what is printed and logged, how the
program ends, and the world after it. Only the command that sets up a project changes the world.
-/

namespace MarkLine.CommandLine

/-- What a run leaves behind. -/
structure Outcome where
  /-- How the program ends: with 0 if all is well, 1 if a command fails, 2 if the command line is
  wrong. -/
  exit : Nat
  stdout : String := ""
  stderr : String := ""
  log : List Event := []
  world : World

/-! ## Failures -/

/-- Why a command cannot do its work: a message and its causes, the nearest first. -/
structure Failure where
  message : String
  causes : List String := []
  deriving DecidableEq, Repr

/-- A cause behind its margin; further lines of it stand below the first. -/
def indented (margin blank : String) (cause : String) : String :=
  margin ++ String.intercalate ("\n" ++ blank) (cause.splitOn "\n")

def numberedCauses : Nat → List String → List String
  | _, [] => []
  | number, cause :: rest =>
    indented ("    " ++ toString number ++ ": ") "       " cause :: numberedCauses (number + 1) rest

/-- The lines of the causes: a single one has no number. -/
def causeLines : List String → List String
  | [cause] => [indented "    " "    " cause]
  | causes => numberedCauses 0 causes

def Failure.print (f : Failure) : String :=
  "Error: " ++ f.message ++
    (if f.causes.isEmpty then ""
     else "\n\nCaused by:" ++ String.join ((causeLines f.causes).map ("\n" ++ ·))) ++ "\n"

/-! ## Compile and check -/

/-- `print`: reports in a format. -/
def Format.print : Format → List SuiteReport → String
  | .text => SuiteReport.text
  | .json => SuiteReport.json
  | .compact => SuiteReport.compact

def compileReports (w : World) (file : String) : Except Failure (List SuiteReport) :=
  if w.isFile file then .ok [w.report file]
  else .error { message := "Suite file not found: " ++ file }

def compileLog (w : World) (file : String) : List Event :=
  if w.isFile file then info ("Compiling " ++ file) :: w.suiteLog file else []

/-- `load_config`: the configuration from its origin. -/
def loadOrigin (w : World) (origin : ConfigOrigin) : Except Failure Config :=
  match origin.path? with
  | none => .ok {}
  | some path =>
    (w.loadConfig path).mapError fun fault =>
      { message := "Failed to load config: " ++ path,
        causes := fault.message :: fault.cause.toList }

/-- The suite files that `check` of a path finds. -/
def checkedFiles (w : World) (path : String) (config : Option String) :
    Except Failure (List String) := do
  let origin := w.configOrigin path config
  let settings ← loadOrigin w origin
  (discover w settings.discovery (origin.baseDir path)).mapError fun fault =>
    { message := "Failed to discover suites under " ++ path,
      causes := fault.message :: fault.cause.toList }

def checkReports (w : World) (path : String) (config : Option String) :
    Except Failure (List SuiteReport) :=
  (checkedFiles w path config).map (·.map w.report)

def checkLog (w : World) (path : String) (config : Option String) : List Event :=
  let origin := w.configOrigin path config
  origin.log ++
    (match origin with
      | .global file => [info ("Using global config: " ++ file)]
      | _ => []) ++
    (match loadOrigin w origin with
      | .error _ => []
      | .ok settings => discoverLog w settings.discovery (origin.baseDir path)) ++
    match checkedFiles w path config with
    | .error _ => []
    | .ok files =>
      (if files.isEmpty then [warn ("No suite files found under " ++ path)] else []) ++
        [info ("Checking " ++ toString files.length ++ " suite file(s)")] ++
        files.flatMap w.suiteLog

/-- The outcome of a command that prints reports: it fails if one of the files does. -/
def reportOutcome (w : World) (format : Format) (log : List Event) :
    Except Failure (List SuiteReport) → Outcome
  | .error failure => { exit := 1, stderr := failure.print, log, world := w }
  | .ok reports =>
    { exit := if reports.all (·.isOk) then 0 else 1, stdout := format.print reports, log,
      world := w }

/-! ## Init -/

/-- The name of the file that `init` writes. -/
def configName : String := "lint-fixture.toml"

/-- The configuration that `init` writes. -/
def initialConfig : String :=
  "# lint-fixture configuration\n\n" ++
  "[discovery]\n" ++
  "# Root directory to search for suite files (default: current directory)\n" ++
  "# root = \"tests/fixtures\"\n\n" ++
  "# Glob patterns selecting suite files, relative to the root\n" ++
  "include = [\"**/*.fixture.toml\"]\n\n" ++
  "# Glob patterns to exclude\n" ++
  "exclude = [\n    \"**/target/**\",\n]\n\n" ++
  "# Respect .gitignore files\n" ++
  "respect_gitignore = true\n"

/-- `write_config`: the world with a configuration file in the working directory. -/
def initWorld (w : World) (force : Bool) : Except Failure World :=
  if w.holds configName && !force then
    .error { message := "Configuration file already exists at " ++ configName ++
      ". Use --force to overwrite." }
  else (w.writeHere configName initialConfig).mapError fun fault => { message := fault.message }

def nextSteps : String :=
  "Created lint-fixture.toml\n\nNext steps:\n" ++
  "  1. Add suite files named *.fixture.toml\n" ++
  "  2. Run: lint-fixture check\n"

/-! ## Runs -/

/-- Runs a command, with all its events. -/
def runCommand (w : World) (config : Option String) : Command → Outcome
  | .compile file format => reportOutcome w format (compileLog w file) (compileReports w file)
  | .check path format =>
    reportOutcome w format (checkLog w path config) (checkReports w path config)
  | .init force =>
    match initWorld w force with
    | .ok world => { exit := 0, stdout := nextSteps, world }
    | .error failure => { exit := 1, stderr := failure.print, world := w }

def Stop.outcome (w : World) : Stop → Outcome
  | .print text => { exit := 0, stdout := text, world := w }
  | .empty => { exit := 2, stderr := programHelp, world := w }
  | .fault cause => { exit := 2, stderr := cause.print, world := w }

/-- Runs a command line. Events of the level `debug` are logged only if asked for. -/
def run (w : World) (args : List String) : Outcome :=
  match parse args with
  | .error stop => stop.outcome w
  | .ok invocation =>
    let outcome := runCommand w invocation.config invocation.command
    { outcome with
      log := outcome.log.filter fun event => invocation.verbose || event.level != .debug }

end MarkLine.CommandLine
