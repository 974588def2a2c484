import MarkLine.Case.Failing
import MarkLine.Scan

/-!
# Marked cases

A marked case is a failing case as it is written down: the code with marker lines under it, and for
each marker the message the rule must report there. `MarkedCase.build` scans the text once for all
markers, so all messages share one clean source, and gives the failing case or the first fault.
-/

namespace MarkLine

/-- The marker of a message that picks none. -/
def defaultMarker : Char := '~'

/-- `MarkedMessage`: a message and the marker drawn under the text it is about. -/
structure Message where
  marker : Char := defaultMarker
  messageId : String
  data : Option Json.Object := none
  suggestions : Option (List Suggestion) := none
  deriving Repr, Inhabited

def Message.suggest (m : Message) (s : Suggestion) : Message :=
  { m with suggestions := some (m.suggestions.getD [] ++ [s]) }

/-- `AnnotatedCase`: a case as it is written down. -/
structure MarkedCase where
  description : String
  source : String
  messages : List Message
  options : List Json.Value := []
  output : Option String := none
  outputs : List String := []
  filename : Option String := none
  only : Bool := false
  deriving Repr, Inhabited

namespace MarkedCase

/-- A case with one message, which takes the default marker. -/
def single (description source : String) (message : Message) : MarkedCase :=
  { description, source, messages := [{ message with marker := defaultMarker }] }

/-- A case with any number of messages, each under its own marker. -/
def multiple (description source : String) (messages : List Message) : MarkedCase :=
  { description, source, messages }

/-- The first marker that one of the earlier ones repeats. -/
def firstRepeated (earlier : List Char) : List Char → Option Char
  | [] => none
  | c :: rest => if earlier.contains c then some c else firstRepeated (earlier ++ [c]) rest

/-- `AnnotatedCase.markers`: the markers of a case, at least one and no two alike. -/
def markers (c : MarkedCase) : Except CaseFault (List Char) :=
  let markers := c.messages.map (·.marker)
  if markers.isEmpty then .error (.noMessages c.description)
  else match firstRepeated [] markers with
    | some marker => .error (.duplicateMarker marker c.description)
    | none => .ok markers

/-- `strip_markers`: a text without the lines that the default marker makes marker lines. -/
def strip (text : String) : Except CaseFault String :=
  (parseMarked text defaultMarker []).map (·.source)

/-- All texts stripped, or the fault of the first that cannot be. -/
def stripAll : List String → Except CaseFault (List String)
  | [] => .ok []
  | text :: rest => do
    let first ← strip text
    let others ← stripAll rest
    return first :: others

/-- `AnnotatedCase.output`: the expected fix of a case, from the single output or from the outputs of
all passes. -/
def fixed (c : MarkedCase) : Except CaseFault (Option Fixed) :=
  match c.output, c.outputs with
  | some _, _ :: _ => .error (.conflictingOutputs c.description)
  | some text, [] => (strip text).map fun clean => some (.single clean)
  | none, [] => .ok none
  | none, texts => (stripAll texts).map fun clean => some (.passes clean)

/-- The expectation of a message at its region. -/
def expect (found : Scan) (description : String) (message : Message) :
    Except CaseFault Expectation :=
  match found.region message.marker with
  | none => .error (.markerNotFound message.marker description)
  | some region =>
    .ok { Expectation.at message.messageId region with
          data := message.data, suggestions := message.suggestions }

/-- The expectations of all messages, or the fault of the first whose marker does not occur. -/
def expectAll (found : Scan) (description : String) :
    List Message → Except CaseFault (List Expectation)
  | [] => .ok []
  | message :: rest => do
    let first ← expect found description message
    let others ← expectAll found description rest
    return first :: others

/-- `convert_annotated_source_to_failure_case`: the failing case that a marked case stands for. -/
def build (c : MarkedCase) : Except CaseFault FailingCase := do
  let markers ← c.markers
  let found ← scan c.source markers
  let errors ← expectAll found c.description c.messages
  let output ← c.fixed
  return { name := c.description, code := found.source, options := c.options, errors, output,
           filename := c.filename, only := c.only }

end MarkedCase
end MarkLine
