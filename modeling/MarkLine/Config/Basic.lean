import MarkLine.Toml.Fault

/-!
# Configuration

Where suite files are searched for and which of them count. Every setting has a default, and a
configuration file names the settings that differ.
-/

namespace MarkLine

/-- `DiscoveryConfig`: how suite files are discovered. -/
structure DiscoverySettings where
  /-- The directory to search. -/
  root : String := "."
  /-- Patterns of the files that count, relative to the root. -/
  includes : List String := ["**/*.fixture.toml"]
  /-- Patterns of the files that do not count after all. -/
  excludes : List String := ["**/target/**"]
  /-- Whether files that version control ignores are passed over. -/
  respectGitignore : Bool := true
  deriving DecidableEq, Repr, Inhabited

structure Config where
  discovery : DiscoverySettings := {}
  deriving DecidableEq, Repr, Inhabited

def DiscoverySettings.read : Toml.Value → Read DiscoverySettings :=
  let default : DiscoverySettings := {}
  Record.read "DiscoveryConfig"
    (DiscoverySettings.mk <$> Record.withDefault "root" default.root (Shape.textAs "path string")
      <*> Record.withDefault "include" default.includes (Shape.list Shape.text)
      <*> Record.withDefault "exclude" default.excludes (Shape.list Shape.text)
      <*> Record.withDefault "respect_gitignore" default.respectGitignore Shape.bool)

def Config.read : Toml.Value → Read Config :=
  Record.read "Config" (Config.mk <$> Record.withDefault "discovery" {} DiscoverySettings.read)

/-- `Config.parse`: the configuration that a text holds. -/
def Config.ofText (text : String) : Except Toml.Fault Config :=
  Toml.readText Config.read text

end MarkLine
