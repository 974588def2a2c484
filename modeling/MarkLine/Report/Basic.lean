import MarkLine.Suite.OnDisk

/-!
# Suite reports

A report says what became of one suite file: either all its cases are compiled, or there is at
least one error and no case. A file that cannot be loaded has one error of its own; a file that was
loaded has one error for each case that cannot be built.
-/

namespace MarkLine

/-- One error of a suite file. -/
inductive ReportError where
  /-- The file gives no suite. -/
  | file (message : String)
  /-- A case cannot be built. -/
  | case (failure : CaseFailure)
  deriving DecidableEq, Repr

namespace ReportError

/-- The number of the case that an error belongs to. -/
def case? : ReportError → Option Nat
  | .file _ => none
  | .case failure => some failure.index

/-- The code of an error that belongs to a case. -/
def code? : ReportError → Option String
  | .file _ => none
  | .case failure => some failure.fault.code

def message : ReportError → String
  | .file message => message
  | .case failure => failure.fault.message

end ReportError

/-- What became of one suite file. -/
structure SuiteReport where
  file : String
  rule : Option String := none
  cases : List FailingCase := []
  errors : List ReportError := []

/-- Whether the file was loaded and all its cases compiled. -/
def SuiteReport.isOk (r : SuiteReport) : Bool := r.errors.isEmpty

/-- `SuiteReport.compile`: the report on a suite file. -/
def World.report (w : World) (file : String) : SuiteReport :=
  match w.loadSuite file with
  | .error fault => { file, errors := [.file fault.message] }
  | .ok suite =>
    match suite.compile with
    | .ok cases => { file, rule := suite.rule, cases }
    | .error failures => { file, rule := suite.rule, errors := failures.map .case }

/-- `display_name`: the name that a case is shown under. -/
def FailingCase.shownName (c : FailingCase) : String :=
  if c.name = "" then "<unnamed>" else c.name

end MarkLine
