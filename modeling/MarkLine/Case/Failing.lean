import MarkLine.Position
import MarkLine.Text.Lines

/-!
# Failing cases

A failing case is a piece of code on which a rule must report: the expected errors with their
spans, the expected fix, and what the rule is run with. Each record has a JSON form; a field that
is absent, an empty name and an unset flag are left out of it, and reading takes their absence for
the same.
-/

namespace MarkLine

/-- A change that an error must offer. -/
structure Suggestion where
  messageId : String
  data : Option Json.Object
  output : String
  deriving Repr, Inhabited

/-- `TestCaseError`: one error that a rule must report. -/
structure Expectation where
  messageId : String
  data : Option Json.Object
  span : Span
  suggestions : Option (List Suggestion)
  deriving Repr, Inhabited

/-- `FixOutput`: the expected text after fixing, in one text or in one for each pass. -/
inductive Fixed where
  | single (text : String)
  | passes (texts : List String)
  deriving DecidableEq, Repr

/-- `FailureCase`: a case that is ready to run. -/
structure FailingCase where
  name : String
  code : String
  options : List Json.Value
  errors : List Expectation
  output : Option Fixed
  filename : Option String
  only : Bool
  deriving Repr

/-- `final_text`: the text after the last pass, if there is one. -/
def Fixed.finalText : Fixed → Option String
  | .single text => some text
  | .passes texts => texts.getLast?

/-- `TestCaseError.at`: the expectation of a message at a region, without data and suggestions. -/
def Expectation.at (messageId : String) (region : Region) : Expectation :=
  { messageId, data := none, span := region.span, suggestions := none }

/-! ## JSON forms -/

open Json in
def Suggestion.toJson (s : Suggestion) : Value :=
  .object ([("messageId", .text s.messageId)] ++ optional "data" .object s.data ++
    [("output", .text s.output)])

def Suggestion.read : Json.Value → Read Suggestion :=
  Record.read "Suggestion"
    (Suggestion.mk <$> Record.required "messageId" Shape.text
      <*> Record.optional "data" Shape.map <*> Record.required "output" Shape.text)

open Json in
def Expectation.toJson (e : Expectation) : Value :=
  .object ([("messageId", .text e.messageId)] ++ optional "data" .object e.data ++
    [("line", .nat e.span.line), ("column", .nat e.span.column),
     ("endLine", .nat e.span.endLine), ("endColumn", .nat e.span.endColumn)] ++
    optional "suggestions" (fun list => .list (list.map Suggestion.toJson)) e.suggestions)

/-- An expectation from its fields, in the order in which they are declared. -/
def Expectation.make (messageId : String) (data : Option Json.Object)
    (line column endLine endColumn : Nat) (suggestions : Option (List Suggestion)) : Expectation :=
  { messageId, data, span := { line, column, endLine, endColumn }, suggestions }

def Expectation.read : Json.Value → Read Expectation :=
  Record.read "TestCaseError"
    (Expectation.make <$> Record.required "messageId" Shape.text
      <*> Record.optional "data" Shape.map
      <*> Record.required "line" Shape.nat <*> Record.required "column" Shape.nat
      <*> Record.required "endLine" Shape.nat <*> Record.required "endColumn" Shape.nat
      <*> Record.optional "suggestions" (Shape.list Suggestion.read))

/-- The JSON form of an expected fix: a text or a list of texts. -/
def Fixed.toJson : Fixed → Json.Value
  | .single text => .text text
  | .passes texts => .list (texts.map .text)

def Fixed.read (v : Json.Value) : Read Fixed :=
  match Shape.text v, Shape.list Shape.text v with
  | .ok text, _ => .ok (.single text)
  | _, .ok texts => .ok (.passes texts)
  | _, _ => .error ⟨Shape.line v, .noForm "FixOutput"⟩

/-- The JSON form of an expected fix that may be absent. -/
def Fixed.toJson? : Option Fixed → Json.Value
  | none => .null
  | some fixed => fixed.toJson

open Json in
def FailingCase.toJson (c : FailingCase) : Value :=
  .object ((if c.name = "" then [] else [("name", .text c.name)]) ++
    [("code", .text c.code), ("options", .list c.options),
     ("errors", .list (c.errors.map Expectation.toJson)), ("output", Fixed.toJson? c.output)] ++
    optional "filename" .text c.filename ++
    (if c.only then [("only", .bool true)] else []))

def FailingCase.read : Json.Value → Read FailingCase :=
  Record.read "FailureCase"
    (FailingCase.mk <$> Record.withDefault "name" "" Shape.text
      <*> Record.required "code" Shape.text
      <*> Record.withDefault "options" [] (Shape.list .ok)
      <*> Record.required "errors" (Shape.list Expectation.read)
      <*> Record.nullable "output" Fixed.read
      <*> Record.optional "filename" Shape.text
      <*> Record.withDefault "only" false Shape.bool)

/-! ## Shown form -/

/-- The lines of a text, each behind a bar. -/
def barred (text : String) : List String :=
  (Text.shownLines text).map ("  | " ++ ·)

/-- The lines that show a case: its name, its code, its errors and its fixed code. -/
def FailingCase.shownLines (c : FailingCase) : List String :=
  [c.name] ++ barred c.code ++
    c.errors.map (fun e => "  = " ++ e.messageId ++ " at " ++ e.span.display) ++
    match c.output.bind Fixed.finalText with
    | none => []
    | some text => "  = output:" :: barred text

/-- `FailureCase.format`: a case as a report shows it, every line ended. -/
def FailingCase.display (c : FailingCase) : String :=
  String.join (c.shownLines.map (· ++ "\n"))

end MarkLine
