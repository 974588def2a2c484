import MarkLine.FileTree
import MarkLine.Ignore.Pattern
import MarkLine.Text.Blank

/-!
# Rules of ignore files

Each line of an ignore file is a rule. Of the rules that match a path the last one decides: the
path is ignored, or, if the rule starts with an exclamation mark, kept. A rule without a slash
matches at any depth, one with a slash from the directory of its file on, and one that ends with a
slash matches directories only. A line whose pattern is not well formed is passed over.
-/

namespace MarkLine.Ignore

structure Rule where
  /-- What a path must match. -/
  pattern : List Token
  /-- Whether paths that match are kept. -/
  keeps : Bool
  /-- Whether only directories match. -/
  directoriesOnly : Bool

/-- What a rule says about a path. -/
inductive Verdict where
  | ignored
  | kept
  deriving DecidableEq, Repr

/-- What is wrong with a line: the rule as it is written, and the fault of its pattern. -/
structure LineFault where
  written : String
  fault : PatternFault
  deriving DecidableEq, Repr

/-! ## Lines -/

/-- A line without trailing blanks, unless it ends with an escaped space. -/
def trimLine (line : List Char) : List Char :=
  if line.reverse.take 2 = [' ', '\\'] then line else Text.trimEnd line

/-- A pattern that may match at any depth. -/
def anywhere (body : List Char) : List Char :=
  if body = ['*', '*'] || ['*', '*', '/'].isPrefixOf body then body
  else ['*', '*', '/'] ++ body

/-- A pattern that ends with two stars as a component matches what is in a directory, and not the
directory itself. -/
def belowOnly (body : List Char) : List Char :=
  if ['/', '*', '*'].isSuffixOf body then body ++ ['/', '*'] else body

/-- The body of a rule without the slash at its end, and whether there was one. An escaped slash
loses its escape too. -/
def dropFinalSlash (body : List Char) : List Char × Bool :=
  if body.getLast? = some '/' then
    let shorter := body.dropLast
    (if shorter.getLast? = some '\\' then shorter.dropLast else shorter, true)
  else (body, false)

/-- A rule from its body, given whether it keeps and whether it is bound to the directory of its
file. -/
def ofBody (written : List Char) (keeps bound : Bool) (body : List Char) : Except LineFault Rule :=
  let (body, directoriesOnly) := dropFinalSlash body
  let pattern := belowOnly (if bound || body.contains '/' then body else anywhere body)
  match parsePattern pattern with
  | .ok tokens => .ok { pattern := tokens, keeps, directoriesOnly }
  | .error fault => .error ⟨String.ofList written, fault⟩

/-- The rule of a line; a comment and an empty line have none. -/
def ofLine (line : List Char) : Except LineFault (Option Rule) :=
  if line.head? = some '#' then .ok none
  else
    let written := trimLine line
    match written with
    | [] => .ok none
    | '\\' :: '!' :: rest => (ofBody written false false ('!' :: rest)).map some
    | '\\' :: '#' :: rest => (ofBody written false false ('#' :: rest)).map some
    | '!' :: '/' :: rest => (ofBody written true true rest).map some
    | '!' :: rest => (ofBody written true false rest).map some
    | '/' :: rest => (ofBody written false true rest).map some
    | _ => (ofBody written false false written).map some

/-! ## Files -/

/-- Why a line of an ignore file has no rule. -/
inductive RuleFault where
  | line (fault : LineFault)
  | io (fault : IoFault)
  deriving DecidableEq, Repr

def RuleFault.message : RuleFault → String
  | .line fault => "error parsing glob '" ++ fault.written ++ "': " ++ fault.fault.message
  | .io fault => fault.message

/-- The rules of an ignore file, the directory that they speak about, and what is wrong in the file,
line by line. -/
structure RuleFile where
  root : String := ""
  rules : List Rule := []
  faults : List (Nat × RuleFault) := []

/-- The lines of some bytes: a line feed ends a line, with a carriage return before it. -/
def byteLines (line : List UInt8) : List UInt8 → List (List UInt8)
  | [] => if line.isEmpty then [] else [line.reverse]
  | b :: rest =>
    if b = 10 then
      (if line.head? = some 13 then line.tail else line).reverse :: byteLines [] rest
    else byteLines (b :: line) rest

/-- The rules and the faults of lines numbered from `number` on. Reading ends at a line that is not
UTF-8. -/
def readLines : Nat → List (List UInt8) → List Rule × List (Nat × RuleFault)
  | _, [] => ([], [])
  | number, bytes :: rest =>
    match String.fromUTF8? ⟨bytes.toArray⟩ with
    | none => ([], [(number, .io .invalidText)])
    | some text =>
      let line := if number = 1 then text.toList.dropWhile (· = '\ufeff') else text.toList
      let (rules, faults) := readLines (number + 1) rest
      match ofLine line with
      | .ok none => (rules, faults)
      | .ok (some rule) => (rule :: rules, faults)
      | .error fault => (rules, (number, .line fault) :: faults)

/-- The faults of a file that count: a file that merely cannot be read to its end is no fault. -/
def countedFaults : List (Nat × RuleFault) → List (Nat × RuleFault)
  | [(_, .io _)] => []
  | faults => faults

def withoutStart (start text : List Char) : List Char :=
  if start.isPrefixOf text then text.drop start.length else text

/-- The rules of the file at a path, which speak about a directory. A file that is not there has
none. -/
def RuleFile.load (w : World) (directory path : String) : RuleFile :=
  let root := String.ofList (withoutStart ['.', '/'] directory.toList)
  match w.find? path with
  | some (.file bytes) =>
    let (rules, faults) := readLines 1 (byteLines [] bytes.data.toList)
    { root, rules, faults := countedFaults faults }
  | _ => { root }

namespace RuleFile

/-- A path as the rules of a file see it: relative to the directory of the file where it starts with
the path of the directory. -/
def seen (file : RuleFile) (path : List Char) : List Char :=
  let path := withoutStart ['.', '/'] path
  if Path.components file.root = [.here] || !path.contains '/' then path
  else if file.root.toList.isPrefixOf path then
    withoutStart ['/'] (path.drop file.root.length)
  else path

/-- What a file says about a path: its last rule that matches decides. -/
def verdict (file : RuleFile) (path : List Char) (isDirectory : Bool) : Option Verdict :=
  let bytes := (String.ofList (file.seen path)).toUTF8.data.toList
  let decides := fun rule : Rule =>
    (!rule.directoriesOnly || isDirectory) && patternMatches rule.pattern bytes
  (file.rules.reverse.find? decides).map fun rule => if rule.keeps then .kept else .ignored

end RuleFile
end MarkLine.Ignore
