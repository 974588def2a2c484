import MarkLine.Case.Marked
import MarkLine.Toml.Value

/-!
# Drafts of suites

A suite file as it is written, before its rules are checked. A case is drafted in one of two shapes:
with one message, whose fields stand in the case itself, or with a list of messages, each with the
marker it is drawn under.
-/

namespace MarkLine

/-- `MessageDto`: a message as it is drafted. -/
structure MessageDraft where
  marker : String
  messageId : String
  data : Option Json.Object
  suggestions : Option (List Suggestion)

/-- `CaseDto`: a case as it is drafted. -/
structure CaseDraft where
  description : String
  source : String
  messageId : Option String
  data : Option Json.Object
  suggestions : Option (List Suggestion)
  messages : Option (List MessageDraft)
  options : List Json.Value
  output : Option String
  outputs : List String
  filename : Option String
  only : Bool

/-- `SuiteDto`: a suite as it is drafted. -/
structure SuiteDraft where
  rule : Option String
  cases : List CaseDraft

namespace Draft

/-- The data of a message, its keys in increasing order. -/
def data (v : Toml.Value) : Read Json.Object :=
  (Shape.map v).map fun entries => Json.Object.ofList (Toml.jsonEntries entries)

def suggestion : Toml.Value → Read Suggestion :=
  Record.read "SuggestionDto"
    (Suggestion.mk <$> Record.required "message_id" Shape.text
      <*> Record.optional "data" data <*> Record.required "output" Shape.text)

def message : Toml.Value → Read MessageDraft :=
  Record.read "MessageDto"
    (MessageDraft.mk <$> Record.required "char" Shape.text
      <*> Record.required "message_id" Shape.text
      <*> Record.optional "data" data
      <*> Record.optional "suggestions" (Shape.list suggestion))

def case : Toml.Value → Read CaseDraft :=
  Record.read "CaseDto"
    (CaseDraft.mk <$> Record.required "description" Shape.text
      <*> Record.required "annotated_source" Shape.text
      <*> Record.optional "message_id" Shape.text
      <*> Record.optional "data" data
      <*> Record.optional "suggestions" (Shape.list suggestion)
      <*> Record.optional "messages" (Shape.list message)
      <*> Record.withDefault "options" [] (Shape.list fun v => .ok v.toJson)
      <*> Record.optional "annotated_output" Shape.text
      <*> Record.withDefault "annotated_outputs" [] (Shape.list Shape.text)
      <*> Record.optional "filename" Shape.text
      <*> Record.withDefault "only" false Shape.bool)

def suite : Toml.Value → Read SuiteDraft :=
  Record.read "SuiteDto"
    (SuiteDraft.mk <$> Record.optional "rule" Shape.text
      <*> Record.withDefault "invalid" [] (Shape.list case))

end Draft
end MarkLine
