import MarkLine.Report.Basic

/-!
# Reports as JSON

A list of objects, one for each file, laid out over lines.
-/

namespace MarkLine

open Json in
def ReportError.toJson (e : ReportError) : Value :=
  .object (optional "case" .nat e.case? ++ optional "code" .text e.code? ++
    [("message", .text e.message)])

namespace SuiteReport

open Json in
def toJson (r : SuiteReport) : Value :=
  .object ([("file", .text r.file)] ++ optional "rule" .text r.rule ++
    [("cases", .list (r.cases.map FailingCase.toJson)),
     ("errors", .list (r.errors.map ReportError.toJson))])

/-- Reports in JSON form. -/
def json (reports : List SuiteReport) : String :=
  (Json.Value.list (reports.map toJson)).pretty ++ "\n"

end SuiteReport
end MarkLine
