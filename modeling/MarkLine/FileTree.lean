import MarkLine.Path
import MarkLine.Toml.Fault

/-!
# File trees

The files that the program sees are a tree of plain data. A path is followed name by name from the
working directory or from the root; every step needs a directory to step from, and two points step
back to the directory above.
-/

namespace MarkLine

/-- A file with its bytes, or a directory with its entries. -/
inductive Entry where
  | file (bytes : ByteArray)
  | directory (entries : List (String × Entry))
  deriving Inhabited

namespace Entry

def find? : List String → Entry → Option Entry
  | [], entry => some entry
  | _ :: _, .file _ => none
  | name :: names, .directory entries =>
    match entries.lookup name with
    | some inner => inner.find? names
    | none => none

/-- Puts an entry under a name, in the place of one that is there. -/
def putEntry (name : String) (entry : Entry) : List (String × Entry) → List (String × Entry)
  | [] => [(name, entry)]
  | (other, old) :: rest =>
    if other = name then (name, entry) :: rest else (other, old) :: putEntry name entry rest

/-- Puts an entry at the end of some names. Directories on the way are made where they are missing.
-/
def put : Entry → List String → Entry → Entry
  | _, [], entry => entry
  | here, name :: names, entry =>
    let entries := match here with
      | .directory entries => entries
      | .file _ => []
    let inner := (entries.lookup name).getD (.directory [])
    .directory (putEntry name (put inner names entry) entries)

def isFile : Entry → Bool
  | .file _ => true
  | .directory _ => false

end Entry

/-- Why a file cannot be read or written. -/
inductive IoFault where
  | notFound
  | notDirectory
  | isDirectory
  | invalidText
  deriving DecidableEq, Repr

def IoFault.message : IoFault → String
  | .notFound => "No such file or directory (os error 2)"
  | .notDirectory => "Not a directory (os error 20)"
  | .isDirectory => "Is a directory (os error 21)"
  | .invalidText => "stream did not contain valid UTF-8"

/-- What the program runs in: all files, the working directory, the settings of the environment that
it looks at, and the words of the TOML parser. -/
structure World where
  /-- The directory at the root of all paths. -/
  tree : Entry
  /-- The names of the working directory. -/
  workingDir : List String
  /-- The home directory. -/
  home : Option String
  /-- The directory of the global configuration, if it is set. -/
  configDir : Option String
  /-- The directory of the configurations of the user, if it is set. -/
  userConfigDir : Option String := none
  /-- What the parser of TOML files says of a fault in a text. -/
  tomlMessage : String → Toml.Fault → String := fun _ fault => fault.outline

namespace World

/-- The names that the pieces of a path lead to, from the directory with the names `here`. -/
def follow (tree : Entry) (here : List String) : List String → Except IoFault (List String)
  | [] => .ok here
  | piece :: rest =>
    match tree.find? here with
    | some (.directory entries) =>
      if piece = "" || piece = "." then follow tree here rest
      else if piece = ".." then follow tree here.dropLast rest
      else if (entries.lookup piece).isSome then follow tree (here ++ [piece]) rest
      else .error .notFound
    | _ => .error .notDirectory

def resolve (w : World) (path : String) : Except IoFault (List String) :=
  if path = "" then .error .notFound
  else if Path.isAbsolute path then follow w.tree [] (Path.split path)
  else follow w.tree w.workingDir (Path.split path)

def find? (w : World) (path : String) : Option Entry :=
  match w.resolve path with
  | .ok names => w.tree.find? names
  | .error _ => none

/-- Whether a path leads anywhere. -/
def holds (w : World) (path : String) : Bool := (w.find? path).isSome

def isFileAt (w : World) (names : List String) : Bool :=
  (w.tree.find? names).any Entry.isFile

def isFile (w : World) (path : String) : Bool :=
  (w.find? path).any Entry.isFile

def isDirectory (w : World) (path : String) : Bool :=
  (w.find? path).any fun entry => !entry.isFile

def readText (w : World) (path : String) : Except IoFault String :=
  match w.resolve path with
  | .error fault => .error fault
  | .ok names =>
    match w.tree.find? names with
    | some (.file bytes) =>
      match String.fromUTF8? bytes with
      | some text => .ok text
      | none => .error .invalidText
    | some (.directory _) => .error .isDirectory
    | none => .error .notFound

/-- Writes a file in the working directory. -/
def writeHere (w : World) (name text : String) : Except IoFault World :=
  match w.tree.find? (w.workingDir ++ [name]) with
  | some (.directory _) => .error .isDirectory
  | _ => .ok { w with tree := w.tree.put (w.workingDir ++ [name]) (.file text.toUTF8) }

end World
end MarkLine
