import MarkLine.Config.Basic
import MarkLine.FileTree

/-!
# Configuration files

A project keeps its configuration under one of two names, the plain one before the hidden one.
-/

namespace MarkLine

/-- The names of a project's configuration file, the preferred one first. -/
def configNames : List String := ["lint-fixture.toml", ".lint-fixture.toml"]

/-- `ConfigError`: why a configuration file gives no configuration. -/
inductive ConfigFault where
  | unreadable (path : String) (fault : IoFault)
  | text (message : String)
  deriving DecidableEq, Repr

namespace ConfigFault

def message : ConfigFault → String
  | .unreadable path fault => "Failed to read config file " ++ path ++ ": " ++ fault.message
  | .text message => "Failed to parse config: " ++ message

/-- The cause that a fault passes on. -/
def cause : ConfigFault → Option String
  | .unreadable _ fault => some fault.message
  | .text _ => none

end ConfigFault

/-- `Config.from_file`: the configuration in a file. -/
def World.loadConfig (w : World) (path : String) : Except ConfigFault Config :=
  match w.readText path with
  | .error fault => .error (.unreadable path fault)
  | .ok text => (Config.ofText text).mapError fun fault => .text (w.tomlMessage text fault)

end MarkLine
