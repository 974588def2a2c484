/-!
# Paths

A path is kept as it was written. Joining and cutting never clean it: `./a` stays `./a`, and only
the reading of its parts passes over empty parts and over a `.` that does not stand first.
-/

namespace MarkLine.Path

/-- The pieces of a path between slashes, empty ones included. -/
def split (path : String) : List String :=
  (path.toList.splitOn '/').map String.ofList

def isAbsolute (path : String) : Bool :=
  path.toList.head? = some '/'

/-- A path below another; an absolute one replaces it. -/
def join (base path : String) : String :=
  if isAbsolute path || base = "" then path
  else if base.toList.getLast? = some '/' then base ++ path
  else base ++ "/" ++ path

def ofNames (names : List String) : String :=
  "/" ++ String.intercalate "/" names

/-- All starts of a list of names, the empty one first. -/
def heads : List String → List (List String)
  | [] => [[]]
  | name :: names => [] :: (heads names).map (name :: ·)

/-- The names of a directory and of all directories above it, nearest first. -/
def upward (names : List String) : List (List String) :=
  (heads names).reverse

inductive Component where
  | root
  | here
  | up
  | name (name : String)
  deriving DecidableEq, Repr

/-- The part that a piece after the first stands for, if it stands for any. -/
def component? (piece : String) : Option Component :=
  if piece = "" || piece = "." then none
  else if piece = ".." then some .up
  else some (.name piece)

def firstComponent? (piece : String) : Option Component :=
  if piece = "." then some .here else component? piece

def components (path : String) : List Component :=
  match split path with
  | [] => []
  | first :: rest =>
    (if isAbsolute path then [.root] else (firstComponent? first).toList) ++
      rest.filterMap component?

/-- Pieces without those at the start that stand for no part. -/
def trimPieces (pieces : List String) : List String :=
  pieces.dropWhile fun piece => (component? piece).isNone

/-- Pieces without those at either end that stand for no part. -/
def trimBoth (pieces : List String) : List String :=
  (trimPieces (trimPieces pieces).reverse).reverse

/-- What is left of some pieces after the parts of another path. -/
def afterParts : List Component → List String → Option (List String)
  | [], pieces => some pieces
  | part :: parts, pieces =>
    match trimPieces pieces with
    | [] => none
    | piece :: rest => if component? piece = some part then afterParts parts rest else none

/-- A path relative to another one that it lies below, part by part. -/
def relativeTo? (base path : String) : Option String :=
  let rest :=
    match split path, components base with
    | first :: rest, part :: parts =>
      if (if isAbsolute path then some Component.root else firstComponent? first) = some part then
        afterParts parts rest
      else none
    | pieces, [] => if isAbsolute path then none else some pieces
    | [], _ => none
  rest.map fun pieces => String.intercalate "/" (trimBoth pieces)

/-- A path relative to another one, or as it is if it does not lie below. -/
def relativeTo (base path : String) : String :=
  (relativeTo? base path).getD path

/-- The pieces of a relative path, or of an absolute one after its slash, without trailing pieces
that stand for no part; a `.` that stands first is kept. -/
def properPieces (path : String) : List String :=
  let pieces := split path
  let trimmed := (pieces.reverse.dropWhile fun piece => (component? piece).isNone).reverse
  if trimmed.isEmpty && pieces.head? = some "." then ["."] else trimmed

/-- The path of the directory that holds a path; the root and the empty path have none. -/
def parent? (path : String) : Option String :=
  let pieces := properPieces path
  let above := pieces.dropLast
  if isAbsolute path then
    if pieces.isEmpty then none
    else some ("/" ++ String.intercalate "/" (trimBoth above))
  else if pieces.isEmpty then none
  else
    let kept := (above.reverse.dropWhile fun piece => (component? piece).isNone).reverse
    if kept.isEmpty && 0 < above.length && above.head? = some "." then some "."
    else some (String.intercalate "/" kept)

/-- A path and the directories above it, nearest first, at most `count` of them. -/
def ancestorsUpTo : Nat → String → List String
  | 0, _ => []
  | count + 1, path =>
    path :: match parent? path with
      | none => []
      | some above => ancestorsUpTo count above

def ancestors (path : String) : List String :=
  ancestorsUpTo ((split path).length + 1) path

/-- The place of a kind of part in the order of parts. -/
def Component.rank : Component → Nat
  | .root => 0
  | .here => 1
  | .up => 2
  | .name _ => 3

/-- Whether a part comes before another: by kind, and names by their texts. -/
def Component.before : Component → Component → Bool
  | .name a, .name b => a < b
  | a, b => a.rank < b.rank

/-- Whether a path comes before another: at the first part where they differ, or because it ends
first. -/
def before (a b : String) : Bool :=
  (components a).lex (components b) Component.before

/-- Paths in order, those with the same parts as they were. -/
def sort (paths : List String) : List String :=
  paths.mergeSort fun a b => !before b a

end MarkLine.Path
