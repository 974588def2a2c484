import MarkLine.Toml.Document

/-!
# Faults of TOML files

A file may fail to be TOML at all, or be TOML of the wrong shape. Both are reported with the line of
the trouble. The words are those of the parser (`World.tomlMessage`).
-/

namespace MarkLine.Toml

/-- What is wrong with a TOML file that a record is read from. -/
inductive Fault where
  /-- The text is not TOML. -/
  | notToml (fault : SyntaxFault)
  /-- The text is TOML, but a value does not have the shape it should have. -/
  | shape (error : ShapeError)
  deriving DecidableEq, Repr

/-- A fault in outline: its line, and what is wrong with the shape of a value if that is the fault.
-/
def Fault.outline : Fault → String
  | .notToml fault => "TOML parse error at line " ++ toString fault.line
  | .shape error =>
    "TOML parse error at line " ++ toString error.line ++ "\n" ++ error.fault.message ++ "\n"

/-- A record read from a TOML text. -/
def readText {β : Type} (read : Value → Read β) (text : String) : Except Fault β :=
  match parse text with
  | .error fault => .error (.notToml fault)
  | .ok value => (read value).mapError .shape

end MarkLine.Toml
