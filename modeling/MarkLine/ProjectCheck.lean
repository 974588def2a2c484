import MarkLine.Config.OnDisk
import MarkLine.Discovery
import MarkLine.Suite.OnDisk

/-!
# Project checks

A check of a project, as part of its tests, compiles every suite file that its configuration
selects and fails with one report on all files that do not compile.
-/

namespace MarkLine

/-- Why a check of a project fails. -/
inductive ProjectFault where
  | config (fault : ConfigFault)
  | discovery (fault : DiscoveryFault)
  /-- Some of the suite files do not compile: how many files there are, and each that fails, by its
  path relative to the project. -/
  | suites (total : Nat) (failed : List (String × SuiteFault))

def ProjectFault.message : ProjectFault → String
  | .config fault => "lint-fixture: " ++ fault.message
  | .discovery fault => "lint-fixture: suite discovery failed: " ++ fault.message
  | .suites total failed =>
    "\n=== lint-fixture: " ++ toString failed.length ++ " of " ++ toString total ++
      " suite file(s) failed ===\n\n" ++
      String.join (failed.map fun (path, fault) => path ++ "\n  " ++ fault.message ++ "\n\n")

/-- What a check of a project has compiled. -/
structure Compiled where
  cases : Nat
  files : Nat
  deriving DecidableEq, Repr

namespace World

/-- The configuration file of a project: the named one, or the first of the usual names that is
there. -/
def projectConfigFile (w : World) (root : String) : Option String → Option String
  | some path => some (Path.join root path)
  | none => (configNames.map (Path.join root)).find? w.holds

/-- `load_config`: the configuration of a project. -/
def projectSettings (w : World) (root : String) (config : Option String) :
    Except ConfigFault Config :=
  match w.projectConfigFile root config with
  | some path => w.loadConfig path
  | none => .ok {}

/-- The loop of `run_check`: the files that do not compile, by their path relative to `root`. -/
def failedSuites (w : World) (root : String) (files : List String) : List (String × SuiteFault) :=
  files.filterMap fun file =>
    match w.compileSuite file with
    | .ok _ => none
    | .error fault => some (Path.relativeTo root file, fault)

/-- The number of cases in the files that compile. -/
def caseCount (w : World) (files : List String) : Nat :=
  files.foldr (fun file count =>
    match w.compileSuite file with
    | .ok cases => cases.length + count
    | .error _ => count) 0

/-- Compiles all given suite files of a project. -/
def checkFiles (w : World) (root : String) (files : List String) : Except ProjectFault Compiled :=
  match w.failedSuites root files with
  | [] => .ok { cases := w.caseCount files, files := files.length }
  | failed => .error (.suites files.length failed)

/-- `run_check`: checks the project in a directory. -/
def checkProject (w : World) (root : String) (config : Option String) :
    Except ProjectFault Compiled := do
  let settings ← (w.projectSettings root config).mapError .config
  let files ← (discover w settings.discovery root).mapError .discovery
  w.checkFiles root files

def checkFilesLog (w : World) (root : String) (files : List String) : List Event :=
  (if files.isEmpty then [warn ("lint-fixture: no suite files found under " ++ root)] else []) ++
    files.flatMap w.suiteLog ++
    match w.checkFiles root files with
    | .ok compiled =>
      [info ("lint-fixture: " ++ toString compiled.cases ++ " case(s) in " ++
        toString compiled.files ++ " suite file(s) compiled")]
    | .error _ => []

def checkProjectLog (w : World) (root : String) (config : Option String) : List Event :=
  match w.projectSettings root config with
  | .error _ => []
  | .ok settings =>
    discoverLog w settings.discovery root ++
      match discover w settings.discovery root with
      | .error _ => []
      | .ok files => w.checkFilesLog root files

end World
end MarkLine
