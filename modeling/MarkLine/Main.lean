import MarkLine.CommandLine.Run

/-!
# The program

A run sees the world as plain data, so the program first reads what the run will look at: the way
to each path, the files that steer a run in the directories on that way, the names below the root
of the search, and the suite files themselves. Then it runs, prints what the run gives, and writes
the file that the run may have made.
-/

namespace MarkLine.Disk

/-- The names of files whose contents steer a run. -/
def steeringNames : List String :=
  configNames ++ [".ignore", ".gitignore", "exclude"]

/-- The deepest nesting of directories that is looked at. -/
def depthLimit : Nat := 1000

/-- A tree with a directory at some names, if nothing is there yet. -/
def keepDirectory (tree : Entry) (names : List String) : Entry :=
  if (tree.find? names).isSome then tree else tree.put names (.directory [])

def isDirectory (names : List String) : IO Bool := do
  try
    let place ← IO.FS.realPath (Path.ofNames names)
    place.isDir
  catch _ => return false

/-- Reads a file into a tree, if there is one. -/
def readFile (tree : Entry) (names : List String) : IO Entry := do
  try
    let bytes ← IO.FS.readBinFile (Path.ofNames names)
    return tree.put names (.file bytes)
  catch _ => return tree

/-- Reads a file with its contents, or a directory without its entries. -/
def readPlain (tree : Entry) (names : List String) : IO Entry := do
  if ← isDirectory names then return keepDirectory tree names else readFile tree names

/-- Reads a directory with the files in it that steer a run. -/
def readDirectory (tree : Entry) (names : List String) : IO Entry := do
  let mut tree := keepDirectory tree names
  for name in steeringNames do
    tree ← readPlain tree (names ++ [name])
  if ← isDirectory (names ++ [".git", "info"]) then
    tree ← readFile tree (names ++ [".git", "info", "exclude"])
  return tree

/-- Reads the directories on a way and what it leads to. -/
def readAlong (tree : Entry) (here : List String) : List String → IO Entry
  | [] => return tree
  | piece :: rest => do
    if piece = "" || piece = "." then readAlong tree here rest
    else if piece = ".." then readAlong tree here.dropLast rest
    else
      let names := here ++ [piece]
      if ← isDirectory names then
        let tree ← readDirectory tree names
        readAlong tree names rest
      else readFile tree names

/-- Reads the names of all files below a directory, and the contents of those that steer a run. -/
def readBelow : Nat → Entry → List String → IO Entry
  | 0, tree, _ => return tree
  | depth + 1, tree, names => do
    let place ← IO.FS.realPath (Path.ofNames names)
    let mut tree := keepDirectory tree names
    for item in ← place.readDir do
      let inner := names ++ [item.fileName]
      if ← isDirectory inner then tree ← readBelow depth tree inner
      else if steeringNames.contains item.fileName then tree ← readFile tree inner
      else if (tree.find? inner).isNone then tree := tree.put inner (.file .empty)
    return tree

/-- Reads the way to a path into a world. -/
def see (w : World) (path : String) : IO World := do
  let here := if Path.isAbsolute path then [] else w.workingDir
  return { w with tree := ← readAlong w.tree here (Path.split path) }

def seeAll (w : World) : List String → IO World
  | [] => return w
  | path :: rest => do seeAll (← see w path) rest

def start : IO World := do
  let workingDir := (Path.split (← IO.currentDir).toString).filter (· != "")
  let tree ← readAlong (← readDirectory (.directory []) []) [] workingDir
  return { tree, workingDir, home := ← IO.getEnv "HOME",
           configDir := ← IO.getEnv "LINT_FIXTURE_CONFIG_DIR",
           userConfigDir := ← IO.getEnv "XDG_CONFIG_HOME" }

def seeCheck (w : World) (path : String) (config : Option String) : IO World := do
  let w ← seeAll w
    (path :: config.toList ++ (w.globalDir.map (Path.join · "config.toml")).toList)
  let origin := w.configOrigin path config
  match CommandLine.loadOrigin w origin with
  | .error _ => return w
  | .ok settings =>
    let base := origin.baseDir path
    let root := Path.join base settings.discovery.root
    let w ← see w root
    match w.resolve root with
    | .error _ => return w
    | .ok names =>
      if ← isDirectory names then
        let w ← seeAll w (Ignore.gitConfigs w)
        let w ← seeAll w (Ignore.userFile w).toList
        let w := { w with tree := ← readBelow depthLimit w.tree names }
        match discover w settings.discovery base with
        | .error _ => return w
        | .ok files => seeAll w files
      else return w

def seeCommand (w : World) (invocation : CommandLine.Invocation) : IO World :=
  match invocation.command with
  | .compile file _ => see w file
  | .check path _ => seeCheck w path invocation.config
  | .init _ => see w CommandLine.configName

/-- Writes the file that a run made in the working directory. -/
def writeNew (before after : World) : IO Unit := do
  let names := after.workingDir ++ [CommandLine.configName]
  match before.tree.find? names, after.tree.find? names with
  | some (.file old), some (.file new) =>
    unless old.data = new.data do IO.FS.writeBinFile (Path.ofNames names) new
  | none, some (.file new) => IO.FS.writeBinFile (Path.ofNames names) new
  | _, _ => return

/-- Runs a command line on the disk. -/
def run (args : List String) : IO UInt32 := do
  let w ← start
  let w ← match CommandLine.parse args with
    | .ok invocation => seeCommand w invocation
    | .error _ => pure w
  let outcome := CommandLine.run w args
  for event in outcome.log do IO.eprintln event.line
  IO.print outcome.stdout
  IO.eprint outcome.stderr
  writeNew w outcome.world
  return outcome.exit.toUInt32

end MarkLine.Disk

def main (args : List String) : IO UInt32 :=
  MarkLine.Disk.run args
