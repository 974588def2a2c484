/-!
# Glob patterns

Patterns select files by their path relative to the root of a search. `?` stands for any character,
`*` for any run of characters and a class for one of its characters, all of them also for a slash or
a leading point. `**` stands for any number of whole components and must be one itself. There are no
escapes: a special character stands for itself in a class.
-/

namespace MarkLine.Glob

inductive Token where
  | char (c : Char)
  | any
  | within (ranges : List (Char × Char))
  | except (ranges : List (Char × Char))
  | sequence
  | components
  deriving DecidableEq, Repr

abbrev Pattern := List Token

/-- Why a pattern is not well formed. -/
inductive Reason where
  | wildcards
  | recursive
  | range
  deriving DecidableEq, Repr

/-- A fault of a pattern and the character near which it is, counted from zero. -/
structure Fault where
  position : Nat
  reason : Reason
  deriving DecidableEq, Repr

def Reason.message : Reason → String
  | .wildcards => "wildcards are either regular `*` or recursive `**`"
  | .recursive => "recursive wildcards must form a single path component"
  | .range => "invalid range pattern"

def Fault.message (f : Fault) : String :=
  "Pattern syntax error near position " ++ toString f.position ++ ": " ++ f.reason.message

/-! ## Reading -/

/-- The ranges of a class: three characters with a dash in the middle are a range. -/
def ranges : List Char → List (Char × Char)
  | a :: '-' :: b :: rest => (a, b) :: ranges rest
  | a :: rest => (a, a) :: ranges rest
  | [] => []

/-- The characters of a class up to its closing bracket, which is not the first of them, and the
characters after the bracket. -/
def classBody : List Char → Option (List Char × List Char)
  | [] => none
  | first :: rest =>
    let body := rest.takeWhile (· != ']')
    match rest.drop body.length with
    | _ :: after => some (first :: body, after)
    | [] => none

def readClass : List Char → Option (Token × List Char)
  | '!' :: rest => (classBody rest).map fun (body, after) => (.except (ranges body), after)
  | cs => (classBody cs).map fun (body, after) => (.within (ranges body), after)

/-- Reads a pattern from a position on; `previous` is the character before. -/
def readFrom (length : Nat) : Nat → Option Char → List Char → Except Fault Pattern
  | 0, _, _ => .ok []
  | _ + 1, _, [] => .ok []
  | fuel + 1, previous, c :: rest =>
    let position := length - (rest.length + 1)
    if c = '?' then (readFrom length fuel (some c) rest).map (.any :: ·)
    else if c = '*' then
      let stars := ((c :: rest).takeWhile (· = '*')).length
      let after := (c :: rest).drop stars
      if 2 < stars then .error ⟨position + 2, .wildcards⟩
      else if stars = 2 then
        if previous.isNone || previous = some '/' then
          match after with
          | [] => .ok [.components]
          | d :: more =>
            if d = '/' then (readFrom length fuel (some d) more).map (.components :: ·)
            else .error ⟨position + 2, .recursive⟩
        else .error ⟨position - 1, .recursive⟩
      else (readFrom length fuel (some c) after).map (.sequence :: ·)
    else if c = '[' then
      match readClass rest with
      | some (token, after) => (readFrom length fuel (some ']') after).map (token :: ·)
      | none => .error ⟨position, .range⟩
    else (readFrom length fuel (some c) rest).map (.char c :: ·)

def parse (text : String) : Except Fault Pattern :=
  let cs := text.toList
  readFrom cs.length (cs.length + 1) none cs

/-! ## Matching -/

def inRanges (ranges : List (Char × Char)) (c : Char) : Bool :=
  ranges.any fun range => range.1 ≤ c && c ≤ range.2

/-- All ends of a text, the text itself included. -/
def ends : List Char → List (List Char)
  | [] => [[]]
  | c :: rest => (c :: rest) :: ends rest

/-- The ends of a text that follow a slash. -/
def afterSlashes : List Char → List (List Char)
  | [] => []
  | c :: rest => if c = '/' then rest :: afterSlashes rest else afterSlashes rest

/-- The rests of a text that a token can leave. Components end after a slash, and may also take the
whole text. -/
def rests : Token → List Char → List (List Char)
  | .sequence, cs => ends cs
  | .components, cs => cs :: (afterSlashes cs ++ [[]])
  | .char d, c :: cs => if c = d then [cs] else []
  | .any, _ :: cs => [cs]
  | .within ranges, c :: cs => if inRanges ranges c then [cs] else []
  | .except ranges, c :: cs => if inRanges ranges c then [] else [cs]
  | .char _, [] | .any, [] | .within _, [] | .except _, [] => []

def restsOf : Pattern → List (List Char) → List (List Char)
  | [], starts => starts
  | token :: pattern, starts => restsOf pattern (starts.flatMap (rests token)).eraseDups

def matchesText (pattern : Pattern) (cs : List Char) : Bool :=
  (restsOf pattern [cs]).any (·.isEmpty)

end MarkLine.Glob
