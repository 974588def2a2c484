import MarkLine.Event
import MarkLine.Suite.Basic

/-!
# Compiled suites

All cases of a suite are built. If one fails the suite has no compiled cases, but every failure is
listed, with the number of its case.
-/

namespace MarkLine

/-- A case that could not be built. -/
structure CaseFailure where
  index : Nat
  fault : CaseFault
  deriving DecidableEq, Repr

namespace Suite

/-- The loop of `Suite.compile`: the cases that were built and the failures, among cases numbered
from `index` on. -/
def attempt : Nat → List MarkedCase → List FailingCase × List CaseFailure
  | _, [] => ([], [])
  | index, c :: rest =>
    let (built, failures) := attempt (index + 1) rest
    match c.build with
    | .ok result => (result :: built, failures)
    | .error fault => (built, ⟨index, fault⟩ :: failures)

/-- `Suite.compile`: all cases of a suite, or all failures. -/
def compile (s : Suite) : Except (List CaseFailure) (List FailingCase) :=
  match attempt 0 s.cases with
  | (built, []) => .ok built
  | (_, failures) => .error failures

def buildEvent (index : Nat) (c : MarkedCase) : Event :=
  match c.build with
  | .ok result =>
    debug ("compiled `" ++ c.description ++ "`: " ++ toString result.errors.length ++
      " error(s), output: " ++ (if result.output.isSome then "true" else "false"))
  | .error fault => debug ("case " ++ Draft.item "invalid" index ++ " failed: " ++ fault.message)

def buildEvents : Nat → List MarkedCase → List Event
  | _, [] => []
  | index, c :: rest => buildEvent index c :: buildEvents (index + 1) rest

def compileLog (s : Suite) : List Event :=
  buildEvents 0 s.cases ++
    match s.compile with
    | .ok cases =>
      [info ("Compiled " ++ toString cases.length ++ " case(s) for rule " ++
        s.rule.getD "<unnamed>")]
    | .error _ => []

end Suite

/-- `format_failures`: the message of the failures of a suite. -/
def compileMessage (failures : List CaseFailure) : String :=
  toString failures.length ++ " case(s) failed to compile:\n" ++
    String.join (failures.map fun f =>
      "  - " ++ Draft.item "invalid" f.index ++ ": " ++ f.fault.message ++ "\n")

end MarkLine
