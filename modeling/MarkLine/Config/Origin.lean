import MarkLine.Config.OnDisk
import MarkLine.Event

/-!
# Where a configuration comes from

A configuration named by the caller comes first. Otherwise the directory that is checked and the
directories above it are searched, nearest first, and then the global directory; without any file
the defaults hold. A project's configuration lets the search for suites start at its own directory,
so a check from below sees the whole project.
-/

namespace MarkLine

/-- `ConfigSource`: where a configuration comes from. -/
inductive ConfigOrigin where
  /-- The caller named it. -/
  | explicit (path : String)
  /-- It lies in the checked directory or above it. -/
  | project (directory name : String)
  /-- It lies in the global directory. -/
  | global (path : String)
  /-- There is none. -/
  | default
  deriving DecidableEq, Repr

namespace ConfigOrigin

def path? : ConfigOrigin → Option String
  | .explicit path | .global path => some path
  | .project directory name => some (Path.join directory name)
  | .default => none

/-- `base_dir`: the directory that a relative root of discovery is taken from. -/
def baseDir (origin : ConfigOrigin) (checked : String) : String :=
  match origin with
  | .project directory _ => directory
  | _ => checked

end ConfigOrigin

namespace World

/-- The name of the configuration file in the directory that some names lead to. -/
def configAt (w : World) (directory : List String) : Option String :=
  configNames.find? fun name => w.isFileAt (directory ++ [name])

def configIn (w : World) (directory : String) : Option String :=
  configNames.find? fun name => w.isFile (Path.join directory name)

/-- `find_project_config`: the nearest directory with a configuration file, and the name of the
file. The directories above the checked path are those it leads through; if it leads nowhere they
are read off its text. -/
def projectConfig (w : World) (checked : String) : Option (String × String) :=
  match w.resolve checked with
  | .ok names =>
    (Path.upward names).findSome? fun directory =>
      (w.configAt directory).map fun name => (Path.ofNames directory, name)
  | .error _ =>
    (Path.ancestors checked).findSome? fun directory =>
      (w.configIn directory).map fun name => (directory, name)

/-- `global_config_dir`: the directory of the global configuration. -/
def globalDir (w : World) : Option String :=
  match w.configDir with
  | some directory =>
    if directory = "" then w.home.map (Path.join · ".lint-fixture") else some directory
  | none => w.home.map (Path.join · ".lint-fixture")

/-- The configuration file in a global directory. -/
def globalConfig (w : World) (directory : String) : Option String :=
  let path := Path.join directory "config.toml"
  if w.isFile path then some path else none

/-- `resolve_with`: where the configuration for a check comes from, given the global directory. -/
def configOriginWith (w : World) (checked : String) (explicit global : Option String) :
    ConfigOrigin :=
  match explicit, w.projectConfig checked, global.bind w.globalConfig with
  | some path, _, _ => .explicit path
  | none, some (directory, name), _ => .project directory name
  | none, none, some path => .global path
  | none, none, none => .default

/-- `resolve`: where the configuration for a check comes from. -/
def configOrigin (w : World) (checked : String) (explicit : Option String) : ConfigOrigin :=
  w.configOriginWith checked explicit w.globalDir

end World

def ConfigOrigin.log : ConfigOrigin → List Event
  | .project directory name => [debug ("Found project config: " ++ Path.join directory name)]
  | .global path => [debug ("Found global config: " ++ path)]
  | _ => []

end MarkLine
