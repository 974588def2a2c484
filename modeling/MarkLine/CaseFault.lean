import MarkLine.Text.Quoted

/-!
# Faults of a case

Everything that can be wrong with an annotated case. A fault is found when the case is built, before
any rule runs, and is mended in the case itself.
-/

namespace MarkLine

/-- `FixtureError`: what is wrong with an annotated case. -/
inductive CaseFault where
  /-- A message whose marker is on no marker line. -/
  | markerNotFound (marker : Char) (description : String)
  /-- Two messages under one marker. -/
  | duplicateMarker (marker : Char) (description : String)
  /-- A blank character as a marker. -/
  | invalidMarker (marker : Char)
  /-- A marker line with no content line above it; lines count from one. -/
  | orphanMarkerLine (line : Nat)
  /-- A case without messages. -/
  | noMessages (description : String)
  /-- One expected output and a list of them in the same case. -/
  | conflictingOutputs (description : String)
  deriving DecidableEq, Repr

namespace CaseFault

def message : CaseFault → String
  | .markerNotFound marker description =>
    "marker `" ++ String.singleton marker ++ "` does not occur in the annotated source of `" ++
      description ++ "`"
  | .duplicateMarker marker description =>
    "marker `" ++ String.singleton marker ++ "` is used by more than one message in `" ++
      description ++ "`"
  | .invalidMarker marker =>
    Text.quoteChar marker ++ " cannot be used as a marker character"
  | .orphanMarkerLine line =>
    "marker line " ++ toString line ++ " has no content line above it"
  | .noMessages description =>
    "`" ++ description ++ "` declares no messages"
  | .conflictingOutputs description =>
    "`" ++ description ++ "` sets both `annotated_output` and `annotated_outputs`"

/-- The stable code of a fault. -/
def code : CaseFault → String
  | .markerNotFound .. => "lint_fixture::marker_not_found"
  | .duplicateMarker .. => "lint_fixture::duplicate_marker"
  | .invalidMarker .. => "lint_fixture::invalid_marker"
  | .orphanMarkerLine .. => "lint_fixture::orphan_marker_line"
  | .noMessages .. => "lint_fixture::no_messages"
  | .conflictingOutputs .. => "lint_fixture::conflicting_outputs"

/-- How to mend the case, where the message does not say it already. -/
def help : CaseFault → Option String
  | .markerNotFound .. =>
    some "draw the marker on the line right below the text the rule should report"
  | .duplicateMarker .. => some "give every message its own marker character"
  | .invalidMarker .. => some "use a printable character such as `~`, `^` or `#`"
  | .orphanMarkerLine .. => some "marker lines annotate the closest content line above them"
  | .noMessages .. => none
  | .conflictingOutputs .. =>
    some "use `annotated_outputs` only for fixes applied over several passes"

end CaseFault
end MarkLine
