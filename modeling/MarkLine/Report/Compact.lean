import MarkLine.Report.Basic

/-!
# Compact reports

One line for each expected error of a compiled case and one for each error of a file.
-/

namespace MarkLine.SuiteReport

def expectationLine (file : String) (c : FailingCase) (e : Expectation) : String :=
  file ++ ":" ++ toString e.span.line ++ ":" ++ toString e.span.column ++ ": " ++ e.messageId ++
    " [" ++ c.shownName ++ "]"

def errorLine (file : String) (e : ReportError) : String :=
  file ++ ":" ++
    (match e.case? with
      | some index => " " ++ Draft.item "invalid" index
      | none => "") ++
    " error: " ++ e.message

/-- The lines of a report. -/
def compactLines (r : SuiteReport) : List String :=
  r.cases.flatMap (fun c => c.errors.map (expectationLine r.file c)) ++
    r.errors.map (errorLine r.file)

/-- `format_compact`: reports in compact form. -/
def compact (reports : List SuiteReport) : String :=
  String.join ((reports.flatMap compactLines).map (· ++ "\n"))

end MarkLine.SuiteReport
