import MarkLine.FileTree
import MarkLine.Suite.File

/-!
# Suites on disk

A suite file is read, loaded and compiled. Whatever goes wrong on the way is one fault, and the
events of the way are listed beside it.
-/

namespace MarkLine

/-- `SuiteError`: why a suite file gives no failing cases. -/
inductive SuiteFault where
  /-- The file cannot be read. -/
  | unreadable (path : String) (fault : IoFault)
  /-- No draft can be read from the text of the file. -/
  | toml (message : String)
  /-- The draft in the file is no suite. -/
  | draft (fault : DraftFault)
  /-- Some of its cases cannot be built. -/
  | compile (failures : List CaseFailure)

def SuiteFault.message : SuiteFault → String
  | .unreadable path fault => "Failed to read suite file " ++ path ++ ": " ++ fault.message
  | .toml message => "TOML parse error: " ++ message
  | .draft fault => fault.message
  | .compile failures => compileMessage failures

namespace World

/-- `load_suite_file`: the suite in a file. -/
def loadSuite (w : World) (path : String) : Except SuiteFault Suite :=
  match w.readText path with
  | .error fault => .error (.unreadable path fault)
  | .ok text => (Suite.ofText text).mapError fun
    | .toml fault => .toml (w.tomlMessage text fault)
    | .draft fault => .draft fault

/-- The failing cases of a suite file. -/
def compileSuite (w : World) (path : String) : Except SuiteFault (List FailingCase) :=
  match w.loadSuite path with
  | .error fault => .error fault
  | .ok suite => suite.compile.mapError .compile

def suiteLog (w : World) (path : String) : List Event :=
  debug ("Loading suite: " ++ path) ::
    match w.loadSuite path with
    | .error _ => []
    | .ok suite => suite.compileLog

end World
end MarkLine
