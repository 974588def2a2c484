import MarkLine.Suite.Compiled
import MarkLine.Toml.Fault

/-!
# Suite files

The text of a suite file is TOML. Loading reads a draft from it and checks the draft.
-/

namespace MarkLine

/-- Why the text of a suite file gives no suite. -/
inductive SuiteTextFault where
  | toml (fault : Toml.Fault)
  | draft (fault : DraftFault)
  deriving DecidableEq, Repr

/-- `load_suite_from_toml`: the suite that a text holds. -/
def Suite.ofText (text : String) : Except SuiteTextFault Suite :=
  match Toml.readText Draft.suite text with
  | .error fault => .error (.toml fault)
  | .ok draft => (Suite.ofDraft draft).mapError .draft

end MarkLine
