import MarkLine.Report.Basic
import MarkLine.Text.Filled

/-!
# Reports to read

For each file its cases with their errors, and what went wrong, in a block filled to the width of a
screen; at the end a count of everything.
-/

namespace MarkLine.SuiteReport

def red (text : String) : String := "\x1b[31m" ++ text ++ "\x1b[0m"

def green (text : String) : String := "\x1b[32m" ++ text ++ "\x1b[0m"

/-- The greatest width of a line in a block. -/
def blockWidth : Nat := 78

def messageMargins : Text.Margins := ⟨"  × ", "  │ "⟩

def helpMargins : Text.Margins := ⟨"  help: ", "        "⟩

/-- The block that explains a fault of a case: its code, its message and how to mend it. -/
def faultBlock (fault : CaseFault) : List String :=
  [fault.code, ""] ++ Text.fill blockWidth messageMargins fault.message ++
    match fault.help with
    | some help => Text.fill blockWidth helpMargins help
    | none => []

def errorText : ReportError → String
  | .file message => "  " ++ red "error" ++ " " ++ message ++ "\n"
  | .case failure =>
    "  " ++ red "error" ++ " " ++ Draft.item "invalid" failure.index ++ ": " ++
      String.join ((faultBlock failure.fault).map (· ++ "\n")) ++ "\n"

def caseText (c : FailingCase) : String :=
  "  " ++ c.shownName ++ "\n" ++
    String.join (c.errors.map fun e => "    " ++ e.span.display ++ " " ++ e.messageId ++ "\n") ++
    (if c.output.isSome then "    = fixed output\n" else "")

def fileText (r : SuiteReport) : String :=
  r.file ++ "\n" ++ String.join (r.cases.map caseText) ++ String.join (r.errors.map errorText) ++
    "\n"

def caseTotal (reports : List SuiteReport) : Nat :=
  reports.foldr (fun r count => r.cases.length + count) 0

def errorTotal (reports : List SuiteReport) : Nat :=
  reports.foldr (fun r count => r.errors.length + count) 0

/-- The line that counts everything. -/
def summary (reports : List SuiteReport) : String :=
  (if 0 < errorTotal reports then red else green)
    ("Compiled " ++ toString (caseTotal reports) ++ " case(s) in " ++ toString reports.length ++
      " file(s), " ++ toString (errorTotal reports) ++ " error(s)") ++ "\n"

/-- `format_text`: reports to read. -/
def text (reports : List SuiteReport) : String :=
  String.join (reports.map fileText) ++ summary reports

end MarkLine.SuiteReport
