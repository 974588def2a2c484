import MarkLine.Config.Basic
import MarkLine.Event
import MarkLine.Glob
import MarkLine.Ignore.Walk

/-!
# Discovery

Suite files are the files below a root that a walk comes by, that one of the include patterns
matches and that no exclude pattern matches. They are listed in the order of their paths, part by
part.

How to walk and what a pattern matches are questions of their own, and a discovery takes an answer
to both: a `Walker` and a `Matcher`. The program discovers with the walk that goes by ignore files
and with glob patterns (`discover`).
-/

namespace MarkLine

/-- A way to walk through the files of a world. -/
structure Walker where
  /-- The items of a walk from a root, one after the other: the path of a file or a directory, or
  the text of a fault. The files that version control ignores are passed over if this is asked for.
  -/
  items : World → Bool → String → List (Except String String)

/-- A kind of patterns. Whether one matches hangs on nothing but the pattern and the relative path.
-/
structure Matcher where
  Pattern : Type
  /-- The pattern that a text stands for, or the text of a fault. -/
  parse : String → Except String Pattern
  isMatch : Pattern → String → Bool

namespace Matcher

/-- `compile_patterns`: the patterns of some texts, or the fault of the first that is not well
formed. -/
def parseAll (matcher : Matcher) : List String → Except String (List matcher.Pattern)
  | [] => .ok []
  | text :: rest => do
    let first ← matcher.parse text
    let others ← matcher.parseAll rest
    return first :: others

/-- Whether one of some patterns matches a path. -/
def anyMatches (matcher : Matcher) (patterns : List matcher.Pattern) (path : String) : Bool :=
  patterns.any fun pattern => matcher.isMatch pattern path

end Matcher

/-- `DiscoveryError`: why suite files cannot be discovered. -/
inductive DiscoveryFault where
  /-- The root is not a directory. -/
  | missingRoot (root : String)
  /-- A pattern is not well formed. -/
  | pattern (message : String)
  /-- The walk has a fault. -/
  | walk (message : String)
  deriving DecidableEq, Repr

namespace DiscoveryFault

/-- The cause that a fault passes on. -/
def cause : DiscoveryFault → Option String
  | .missingRoot _ => none
  | .pattern message | .walk message => some message

def message : DiscoveryFault → String
  | .missingRoot root => "Root directory not found: " ++ root
  | .pattern message => "Invalid glob pattern: " ++ message
  | .walk message => "Walk error: " ++ message

end DiscoveryFault

/-- What a discovery goes by once its settings are checked. -/
structure Search (matcher : Matcher) where
  root : String
  includes : List matcher.Pattern
  excludes : List matcher.Pattern

/-- What a discovery has of a walk. -/
structure Found where
  /-- The selected files, as the walk came by them. -/
  files : List String := []
  /-- The files that an include pattern matches and an exclude pattern too. -/
  excluded : List String := []
  /-- The fault that ended the walk. -/
  fault : Option String := none

def Found.outcome (found : Found) : Except DiscoveryFault (List String) :=
  match found.fault with
  | some message => .error (.walk message)
  | none => .ok (Path.sort found.files)

/-- The events of a discovery. The order of a walk is not that of the log. -/
def Found.log (root : String) (found : Found) : List Event :=
  (found.excluded.mergeSort fun a b => a ≤ b).map (fun path => debug ("Excluding: " ++ path)) ++
    if found.fault.isSome then []
    else [info ("Found " ++ toString found.files.length ++ " suite file(s) under " ++ root)]

namespace Search

/-- Checks settings in the order root, include patterns, exclude patterns. -/
def ofSettings (matcher : Matcher) (w : World) (settings : DiscoverySettings) (base : String) :
    Except DiscoveryFault (Search matcher) := do
  let root := Path.join base settings.root
  if !w.isDirectory root then throw (.missingRoot root)
  let includes ← (matcher.parseAll settings.includes).mapError .pattern
  let excludes ← (matcher.parseAll settings.excludes).mapError .pattern
  return { root, includes, excludes }

variable {matcher : Matcher} (w : World) (s : Search matcher)

/-- Whether a path is that of a file that an include pattern matches. -/
def isCandidate (path : String) : Bool :=
  w.isFile path && matcher.anyMatches s.includes (Path.relativeTo s.root path)

def isExcluded (path : String) : Bool :=
  matcher.anyMatches s.excludes (Path.relativeTo s.root path)

/-- The loop of `discover_suites`: goes through the items of a walk up to its first fault. -/
def visit : List (Except String String) → Found
  | [] => {}
  | .error message :: _ => { fault := some message }
  | .ok path :: rest =>
    let found := visit rest
    if !s.isCandidate w path then found
    else if s.isExcluded path then { found with excluded := path :: found.excluded }
    else { found with files := path :: found.files }

end Search

section
variable (walker : Walker) (matcher : Matcher) (w : World) (settings : DiscoverySettings)
  (base : String)

/-- `discover_suites`: the suite files that settings select, a relative root being taken from
`base`. -/
def discoverWith : Except DiscoveryFault (List String) := do
  let s ← Search.ofSettings matcher w settings base
  (s.visit w (walker.items w settings.respectGitignore s.root)).outcome

def discoverLogWith : List Event :=
  match Search.ofSettings matcher w settings base with
  | .ok s => (s.visit w (walker.items w settings.respectGitignore s.root)).log s.root
  | .error _ => []

end

/-! ## The walk and the patterns of the program -/

/-- The walk that goes by ignore files. -/
def Ignore.walker : Walker := ⟨walkItems⟩

def Glob.matcher : Matcher where
  Pattern := Pattern
  parse text := (parse text).mapError Fault.message
  isMatch pattern path := matchesText pattern path.toList

/-- The suite files that the program discovers. -/
def discover : World → DiscoverySettings → String → Except DiscoveryFault (List String) :=
  discoverWith Ignore.walker Glob.matcher

def discoverLog : World → DiscoverySettings → String → List Event :=
  discoverLogWith Ignore.walker Glob.matcher

end MarkLine
