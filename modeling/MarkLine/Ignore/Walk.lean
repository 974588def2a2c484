import MarkLine.Ignore.UserRules

/-!
# Walks

A walk lists a directory and what lies below it that no ignore file leaves out. Each directory may
hold three kinds of rules; of two kinds the one named first in `Level` decides, and within a kind
the deeper directory. The directories above the root of the walk count too, and after all of them
the rules of the user. What lies in an ignored directory is never looked at, and the root itself is
never ignored.
-/

namespace MarkLine.Ignore

/-- The rules that a directory holds. -/
structure Level where
  /-- The rules of `.ignore`. -/
  own : RuleFile
  /-- The rules of `.gitignore`. -/
  shared : RuleFile
  /-- The rules of `.git/info/exclude`. -/
  repository : RuleFile

def Level.load (w : World) (useShared : Bool) (directory : String) : Level where
  own := .load w directory (Path.join directory ".ignore")
  shared := if useShared then .load w directory (Path.join directory ".gitignore") else {}
  repository := .load w directory (Path.join (Path.join directory ".git") "info/exclude")

/-- The faults of the rules of a directory, each with the path of its file and its line. -/
def Level.faults (level : Level) (directory : String) : List (String × Nat × RuleFault) :=
  let placed := fun (path : String) (file : RuleFile) => file.faults.map fun fault => (path, fault)
  placed (Path.join directory ".ignore") level.own ++
    placed (Path.join directory ".gitignore") level.shared ++
    placed (Path.join (Path.join directory ".git") "info/exclude") level.repository

structure Start where
  /-- The path of the root, as it was given. -/
  path : String
  /-- The names that lead to the root. -/
  names : List String
  /-- The rules of the directories above the root, nearest first. -/
  above : List Level
  /-- The rules of the user. -/
  user : RuleFile

/-- The paths of the directories above some names, nearest first. -/
def pathsAbove (names : List String) : List String :=
  (Path.upward names).tail.map Path.ofNames

def Start.load (w : World) (useShared : Bool) (path : String) (names : List String) : Start :=
  { path, names, above := (pathsAbove names).map (Level.load w useShared), user := userRules w }

/-- The faults of the rules above the root of a walk, outermost directory first. -/
def Start.faults (start : Start) : List (String × Nat × RuleFault) :=
  (List.zipWith (fun level path => level.faults path) start.above (pathsAbove start.names)).reverse
    |>.flatten

def faultMessage (fault : String × Nat × RuleFault) : String :=
  fault.1 ++ ": line " ++ toString fault.2.1 ++ ": " ++ fault.2.2.message

/-- A path below the root as the directories above the root see it. -/
def Start.fromAbove (start : Start) (path : List Char) : List Char :=
  let relative :=
    if Path.components start.path = [.here] then path
    else
      withoutStart ['/'] (withoutStart (withoutStart ['.', '/'] start.path.toList) path)
  (Path.join (Path.ofNames start.names) (String.ofList relative)).toList

/-- What all rules say about a path below the root, given the rules of the directories from the one
that holds it up to the root. -/
def Start.verdict (start : Start) (levels : List Level) (path : String) (isDirectory : Bool) :
    Option Verdict :=
  let near := withoutStart ['.', '/'] path.toList
  let far := start.fromAbove near
  let kind := fun pick : Level → RuleFile =>
    (levels.findSome? fun level => (pick level).verdict near isDirectory) <|>
      (start.above.findSome? fun level => (pick level).verdict far isDirectory)
  kind (·.own) <|> kind (·.shared) <|> kind (·.repository) <|> start.user.verdict near isDirectory

/-- What a walk came by: the names that lead to it from the root of the walk, and its path. -/
structure Walked where
  names : List String
  path : String
  deriving DecidableEq, Repr

mutual

/-- What lies at or below an entry, given the rules of the directories from the one that holds it up
to the root. -/
def walkEntry (w : World) (useShared : Bool) (start : Start) (levels : List Level)
    (here : Walked) : Entry → List Walked
  | .file _ => [here]
  | .directory entries =>
    here :: walkEntries w useShared start (Level.load w useShared here.path :: levels) here entries

def walkEntries (w : World) (useShared : Bool) (start : Start) (levels : List Level)
    (here : Walked) : List (String × Entry) → List Walked
  | [] => []
  | entry :: rest =>
    walkNamed w useShared start levels here entry ++ walkEntries w useShared start levels here rest

/-- What lies at or below one entry of a directory, nothing if it is ignored. -/
def walkNamed (w : World) (useShared : Bool) (start : Start) (levels : List Level)
    (here : Walked) : String × Entry → List Walked
  | (name, entry) =>
    let below : Walked := ⟨here.names ++ [name], Path.join here.path name⟩
    if start.verdict levels below.path (!entry.isFile) = some .ignored then []
    else walkEntry w useShared start levels below entry

end

/-- What lies at or below a path, which `names` lead to. -/
def walk (w : World) (useShared : Bool) (path : String) (names : List String) : List Walked :=
  match w.tree.find? names with
  | some entry =>
    walkEntry w useShared (.load w useShared path names) [] ⟨[], path⟩ entry
  | none => []

/-- The items of a walk from a path, one after the other. The faults in ignore files above the path
come first, as one item; a path that leads nowhere is a fault itself. -/
def walkItems (w : World) (useShared : Bool) (path : String) : List (Except String String) :=
  match w.resolve path with
  | .error fault => [.error fault.message]
  | .ok names =>
    let faults := (Start.load w useShared path names).faults
    (if faults.isEmpty then [] else [.error (String.intercalate "\n" (faults.map faultMessage))]) ++
      (walk w useShared path names).map fun item => .ok item.path

end MarkLine.Ignore
