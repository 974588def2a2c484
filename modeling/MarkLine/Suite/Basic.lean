import MarkLine.Suite.Draft

/-!
# Suites

A suite holds the marked cases of one rule. `Suite.ofDraft` checks what a draft leaves open: that
each case has exactly one of the two shapes, that the fields of the other shape are not used, and
that every marker is one character. The first offending case is the error.
-/

namespace MarkLine

/-- The marked cases of one rule. -/
structure Suite where
  rule : Option String := none
  cases : List MarkedCase := []
  deriving Inhabited

/-- `LoadError`: what is wrong with a draft; the context names the place. -/
inductive DraftFault where
  /-- Both shapes of a case, or none. -/
  | ambiguousMessages (context : String)
  /-- A field of the one-message shape beside a list of messages. -/
  | misplacedField (context field : String)
  /-- A marker that is not one character. -/
  | invalidMarker (context value : String)
  deriving DecidableEq, Repr

def DraftFault.message : DraftFault → String
  | .ambiguousMessages context =>
    context ++ ": exactly one of `message_id` or `messages` must be set"
  | .misplacedField context field =>
    context ++ ": `" ++ field ++ "` belongs inside `messages` when `messages` is set"
  | .invalidMarker context value =>
    context ++ ": marker must be exactly one character, got " ++ Text.quote value

namespace Draft

/-- The name of an item of a list. -/
def item (name : String) (index : Nat) : String :=
  name ++ "[" ++ toString index ++ "]"

/-- `parse_marker`: the one character of a marker. -/
def markerOf (context value : String) : Except DraftFault Char :=
  match value.toList with
  | [c] => .ok c
  | _ => .error (.invalidMarker context value)

/-- `convert_message`: a message under its marker. -/
def messageOf (context : String) (d : MessageDraft) : Except DraftFault Message :=
  (markerOf (context ++ ".char") d.marker).map fun marker =>
    { marker, messageId := d.messageId, data := d.data, suggestions := d.suggestions }

/-- Messages numbered from `index` on. -/
def messagesOf (context : String) : Nat → List MessageDraft → Except DraftFault (List Message)
  | _, [] => .ok []
  | index, d :: rest => do
    let first ← messageOf (context ++ item ".messages" index) d
    let others ← messagesOf context (index + 1) rest
    return first :: others

/-- The messages of a case in either shape, given as a case with nothing else set. -/
def shapeOf (context : String) (d : CaseDraft) : Except DraftFault MarkedCase :=
  match d.messageId, d.messages with
  | some messageId, none =>
    .ok (MarkedCase.single d.description d.source
      { messageId, data := d.data, suggestions := d.suggestions })
  | none, some messages =>
    if d.data.isSome then .error (.misplacedField context "data")
    else if d.suggestions.isSome then .error (.misplacedField context "suggestions")
    else (messagesOf context 0 messages).map (MarkedCase.multiple d.description d.source)
  | _, _ => .error (.ambiguousMessages context)

/-- `convert_case`: a case with all its fields. -/
def caseOf (context : String) (d : CaseDraft) : Except DraftFault MarkedCase :=
  (shapeOf context d).map fun c =>
    { c with options := d.options, output := d.output, outputs := d.outputs,
             filename := d.filename, only := d.only }

def casesOf : Nat → List CaseDraft → Except DraftFault (List MarkedCase)
  | _, [] => .ok []
  | index, d :: rest => do
    let first ← caseOf (item "invalid" index) d
    let others ← casesOf (index + 1) rest
    return first :: others

end Draft

/-- `load`: the suite that a draft stands for. -/
def Suite.ofDraft (d : SuiteDraft) : Except DraftFault Suite :=
  (Draft.casesOf 0 d.cases).map fun cases => { rule := d.rule, cases }

end MarkLine
