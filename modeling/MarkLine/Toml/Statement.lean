import MarkLine.Toml.Lexical
import MarkLine.Toml.Scalar
import MarkLine.Toml.Table

/-!
# Statements of TOML

A TOML text is a sequence of statements, each ended by a line end: a key with its value, or a header
that opens a table or adds a table to a list. The fuel of the nested readers is the length of the
text, since each takes a character before it calls another.
-/

namespace MarkLine.Toml

mutual

/-- A value inside `depth` lists and inline tables. -/
def value (line : Nat) : Nat → Nat → List Char → Option (Value × List Char)
  | 0, _, _ => none
  | fuel + 1, depth, cs =>
    match cs with
    | [] => none
    | c :: rest =>
      if c = '"' || c = '\'' then (anyText cs).map fun (text, rest) => (.text line text, rest)
      else if c = '[' then
        if depth + 1 < depthLimit then
          (items line fuel (depth + 1) rest).map fun (list, rest) => (.list line list, rest)
        else none
      else if c = '\x7b' then
        if depth + 1 < depthLimit then
          match skipBlanks rest with
          | '\x7d' :: more => some (.table line [], more)
          | more => (pairs line fuel (depth + 1) { line } more).map fun (table, rest) =>
              (table.toValue, rest)
        else none
      else if c = 't' || c = 'f' then truth line cs
      else momentOrNumber line cs

/-- The items of a list up to its closing bracket; a comma may follow the last one. -/
def items (line : Nat) : Nat → Nat → List Char → Option (List Value × List Char)
  | 0, _, _ => none
  | fuel + 1, depth, cs =>
    match skipLayout (fuel + 1) cs with
    | ']' :: rest => some ([], rest)
    | rest =>
      match value line fuel depth rest with
      | none => none
      | some (item, rest) =>
        match skipLayout (fuel + 1) rest with
        | ']' :: more => some ([item], more)
        | ',' :: more => (items line fuel depth more).map fun (list, rest) => (item :: list, rest)
        | _ => none

/-- The entries of an inline table up to its closing brace; no comma follows the last one. -/
def pairs (line : Nat) : Nat → Nat → Table → List Char → Option (Table × List Char)
  | 0, _, _, _ => none
  | fuel + 1, depth, table, cs =>
    match key cs with
    | some (path, '=' :: rest) =>
      match value line fuel depth (skipBlanks rest) with
      | none => none
      | some (item, rest) =>
        match table.assign path item with
        | none => none
        | some table =>
          match skipBlanks rest with
          | '\x7d' :: more => some (table, more)
          | ',' :: more => pairs line fuel depth table more
          | _ => none
    | _ => none

end

inductive Statement where
  /-- A key set to a value in the current table. -/
  | assign (path : List String) (value : Value)
  /-- A table opened. -/
  | table (path : List String)
  /-- A table added to a list and opened. -/
  | row (path : List String)

/-- A header, after its first bracket. -/
def header : List Char → Option (Statement × List Char)
  | '[' :: rest =>
    match key rest with
    | some (path, ']' :: ']' :: more) => (lineEnd more).map fun rest => (.row path, rest)
    | _ => none
  | rest =>
    match key rest with
    | some (path, ']' :: more) => (lineEnd more).map fun rest => (.table path, rest)
    | _ => none

def assignment (line : Nat) (cs : List Char) : Option (Statement × List Char) :=
  match key cs with
  | some (path, '=' :: rest) => do
    let (item, rest) ← value line (rest.length + 1) 0 (skipBlanks rest)
    let rest ← lineEnd rest
    return (.assign path item, rest)
  | _ => none

/-- The statements of a text from a line on, each with its line, or the line of the first that is
not well formed. -/
def statements : Nat → Nat → List Char → Except Nat (List (Nat × Statement))
  | 0, line, _ => .error line
  | fuel + 1, line, cs =>
    match skipBlanks cs with
    | [] => .ok []
    | c :: rest =>
      if c = '#' || c = '\n' || c = '\r' then
        match lineEnd (c :: rest) with
        | some more => statements fuel (line + 1) more
        | none => .error line
      else
        match if c = '[' then header rest else assignment line (c :: rest) with
        | none => .error line
        | some (statement, more) =>
          let taken := (c :: rest).take ((c :: rest).length - more.length)
          match statements fuel (line + taken.count '\n') more with
          | .ok others => .ok ((line, statement) :: others)
          | .error bad => .error bad

end MarkLine.Toml
