import MarkLine.Case.Failing

/-!
# Verification

What a rule reported is compared with what a case expects. Both sides are put in the order of their
spans, equal spans in the order given, and compared pair by pair; so the order in which a rule
reports shows only among diagnostics of one span, and what has no partner shows in the count. Data
is compared only where the case expects some. A fix that leaves the code as it is counts as no fix.
-/

namespace MarkLine

/-- `ReportedDiagnostic`: a diagnostic that a rule reported. -/
structure Reported where
  messageId : String
  span : Span
  data : Option Json.Object := none
  deriving Repr, Inhabited

open Json in
def Reported.toJson (r : Reported) : Value :=
  .object ([("messageId", .text r.messageId), ("line", .nat r.span.line),
     ("column", .nat r.span.column), ("endLine", .nat r.span.endLine),
     ("endColumn", .nat r.span.endColumn)] ++ optional "data" .object r.data)

/-- A diagnostic from its fields, in the order in which they are declared. -/
def Reported.make (messageId : String) (line column endLine endColumn : Nat)
    (data : Option Json.Object) : Reported :=
  { messageId, span := { line, column, endLine, endColumn }, data }

def Reported.read : Json.Value → Read Reported :=
  Record.read "ReportedDiagnostic"
    (Reported.make <$> Record.required "messageId" Shape.text
      <*> Record.required "line" Shape.nat <*> Record.required "column" Shape.nat
      <*> Record.required "endLine" Shape.nat <*> Record.required "endColumn" Shape.nat
      <*> Record.optional "data" Shape.map)

/-- One way in which a report differs from the case. Indices count from zero, in sorted order. -/
inductive Mismatch where
  /-- Another number of errors. -/
  | count (expected actual : Nat)
  /-- An error at another place. -/
  | span (index : Nat) (expected actual : String)
  /-- An error with another message. -/
  | messageId (index : Nat) (expected actual : String)
  /-- An error with other data. -/
  | data (index : Nat) (expected : Json.Object) (actual : Option Json.Object)
  /-- Another text after fixing; no text stands for no fix. -/
  | output (expected actual : Option String)
  /-- Another text after one pass; no text stands for no such pass. -/
  | pass (number : Nat) (expected actual : Option String)
  deriving Repr

namespace Mismatch

/-- `quoted_or`: a text in quotes, or the word for its absence. -/
def quotedOr (absent : String) : Option String → String
  | none => absent
  | some text => Text.quote text

def ordinal (index : Nat) : String := "error #" ++ toString (index + 1)

/-- An expected and an actual text under each other. -/
def sideBySide (absent : String) (expected actual : Option String) : String :=
  "\n  expected: " ++ quotedOr absent expected ++ "\n  actual:   " ++ quotedOr absent actual

def message : Mismatch → String
  | .count expected actual =>
    "expected " ++ toString expected ++ " error(s) but got " ++ toString actual
  | .span index expected actual =>
    ordinal index ++ ": span mismatch (expected " ++ expected ++ ", got " ++ actual ++ ")"
  | .messageId index expected actual =>
    ordinal index ++ ": message id mismatch (expected `" ++ expected ++ "`, got `" ++ actual ++ "`)"
  | .data index expected actual =>
    ordinal index ++ ": data mismatch (expected " ++ Json.Object.inspect expected ++ ", got " ++
      (match actual with | none => "nothing" | some object => Json.Object.inspect object) ++ ")"
  | .output expected actual => "output mismatch" ++ sideBySide "<no fix>" expected actual
  | .pass number expected actual =>
    "fix pass #" ++ toString (number + 1) ++ " mismatch" ++ sideBySide "<no pass>" expected actual

end Mismatch

/-- The outcome of comparing one case. -/
structure Verification where
  caseName : String
  mismatches : List Mismatch
  deriving Repr

namespace Verification

def isOk (v : Verification) : Bool := v.mismatches.isEmpty

/-- `format_report`: the report of a failed comparison. -/
def report (v : Verification) : String :=
  "\n=== lint-fixture: " ++ toString v.mismatches.length ++ " mismatch(es) in `" ++ v.caseName ++
    "` ===\n\n" ++ String.join (v.mismatches.map fun m => "  - " ++ m.message ++ "\n")

end Verification

/-- Whether an expected object and what was reported for it are the same. -/
def sameData (expected : Json.Object) : Option Json.Object → Bool
  | none => false
  | some actual => Json.sameFields actual expected

/-- One round of `verify`: the mismatches of a pair. -/
def comparePair (index : Nat) (e : Expectation) (r : Reported) : List Mismatch :=
  (if e.span.display = r.span.display then []
   else [.span index e.span.display r.span.display]) ++
  (if e.messageId = r.messageId then [] else [.messageId index e.messageId r.messageId]) ++
  (match e.data with
   | none => []
   | some expected => if sameData expected r.data then [] else [.data index expected r.data])

/-- The mismatches of pairs, numbered from `index` on; what has no partner is passed over. -/
def comparePairs : Nat → List Expectation → List Reported → List Mismatch
  | index, e :: es, r :: rs => comparePair index e r ++ comparePairs (index + 1) es rs
  | _, _, _ => []

def sortExpected (errors : List Expectation) : List Expectation :=
  errors.mergeSort fun a b => a.span.before b.span

def sortReported (reported : List Reported) : List Reported :=
  reported.mergeSort fun a b => a.span.before b.span

def compareErrors (errors : List Expectation) (reported : List Reported) : List Mismatch :=
  (if errors.length = reported.length then [] else [.count errors.length reported.length]) ++
    comparePairs 0 (sortExpected errors) (sortReported reported)

/-- A fixed text that changes the code; an unchanged one counts as no fix. -/
def effectiveFix (code : String) (fixed : Option String) : Option String :=
  fixed.filter (· != code)

def compareOutput (expected actual : Option String) : List Mismatch :=
  if expected = actual then [] else [.output expected actual]

/-- `verify`: compares reported diagnostics and the fixed text with a case. Of an expected fix in
several passes only the last text counts. -/
def verify (c : FailingCase) (reported : List Reported) (fixed : Option String) : Verification :=
  { caseName := c.name
    mismatches := compareErrors c.errors reported ++
      compareOutput (c.output.bind Fixed.finalText) (effectiveFix c.code fixed) }

def comparePass (expected actual : List String) (pass : Nat) : List Mismatch :=
  if expected[pass]? = actual[pass]? then [] else [.pass pass expected[pass]? actual[pass]?]

/-- `verify_passes`: compares reported diagnostics and the text after every pass with a case. The
last pass counts as the fixed text; the passes before it are compared where the case expects
several. -/
def verifyPasses (c : FailingCase) (reported : List Reported) (passes : List String) :
    Verification :=
  let whole := verify c reported passes.getLast?
  match c.output with
  | some (.passes expected) =>
    { whole with
      mismatches := whole.mismatches ++
        (List.range (max expected.length passes.length - 1)).flatMap
          (comparePass expected passes) }
  | _ => whole

/-- `assert_case`: asserts that a case is satisfied. The report is the error of a case that is not.
-/
def assertCase (c : FailingCase) (reported : List Reported) (fixed : Option String) :
    Except String Unit :=
  let outcome := verify c reported fixed
  if outcome.isOk then .ok () else .error outcome.report

end MarkLine
