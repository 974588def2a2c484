import MarkLine.Toml.Statement

/-!
# TOML documents

The statements of a text are carried out one after the other. Keys go into the current table, which
is put in its place when the next header comes: until then the tables around it do not change. A
table that was only implied so far becomes the current one with what it holds, and moves to the end
of the table it lies in.
-/

namespace MarkLine.Toml

/-- A text that is not TOML, by the line of its first bad statement. -/
structure SyntaxFault where
  line : Nat
  deriving DecidableEq, Repr

/-- Where the current table belongs. -/
inductive Place where
  /-- It is the whole document. -/
  | root
  /-- It stands under a path. -/
  | table (path : List String)
  /-- It is the last of the list of tables under a path. -/
  | row (path : List String)

/-- A document being read: the tables in their places and the current one. -/
structure Building where
  root : Table
  current : Table
  place : Place

/-- Puts a table at the end of a list of tables. -/
def addRow (key : String) (row : Table) (t : Table) : Option Table :=
  match t.entries.lookup key with
  | some (.rows line tables) =>
    some { t with entries :=
      replaceEntry key (.rows line (tables ++ [(row.line, row.entries)])) t.entries }
  | _ => none

/-- The document with the current table put in its place. -/
def Building.settle (d : Building) : Option Table :=
  match d.place with
  | .root => some d.current
  | .table path =>
    match path.getLast? with
    | none => none
    | some key =>
      d.root.update false d.current.line (Table.insertNew key d.current.toNode) path.dropLast
  | .row path =>
    match path.getLast? with
    | none => none
    | some key => d.root.update false d.current.line (addRow key d.current) path.dropLast

/-- Takes what an implied table under a key holds out of its table, so that a header can open it;
under a free key there is nothing to take. -/
def takeImplied (key : String) (t : Table) : Option (List (String × Node) × Table) :=
  match t.entries.lookup key with
  | none => some ([], t)
  | some (.table _ true false entries) =>
    some (entries, { t with entries := t.entries.filter (·.1 != key) })
  | some _ => none

/-- Makes room for a list of tables under a key. -/
def openRows (key : String) (line : Nat) (t : Table) : Option Table :=
  match t.entries.lookup key with
  | none => some { t with entries := t.entries ++ [(key, .rows line [])] }
  | some (.rows ..) => some t
  | some _ => none

def Building.perform (d : Building) (line : Nat) : Statement → Option Building
  | .assign path item => do
    let current ← d.current.assign path item
    return { d with current }
  | .table path => do
    let root ← d.settle
    let key ← path.getLast?
    let (entries, root) ← root.edit false line (takeImplied key) path.dropLast
    return { root, current := { line, entries }, place := .table path }
  | .row path => do
    let root ← d.settle
    let key ← path.getLast?
    let root ← root.update false line (openRows key line) path.dropLast
    return { root, current := { line }, place := .row path }

def Building.performAll : Building → List (Nat × Statement) → Except SyntaxFault Building
  | d, [] => .ok d
  | d, (line, statement) :: rest =>
    match d.perform line statement with
    | some next => next.performAll rest
    | none => .error ⟨line⟩

/-- The table that a text stands for. A byte-order mark before it is passed over. -/
def parse (text : String) : Except SyntaxFault Value :=
  let cs := match text.toList with
    | '\uFEFF' :: rest => rest
    | cs => cs
  match statements (cs.length + 1) 1 cs with
  | .error line => .error ⟨line⟩
  | .ok list =>
    match Building.performAll ⟨{ line := 1 }, { line := 1 }, .root⟩ list with
    | .error fault => .error fault
    | .ok built =>
      match built.settle with
      | some root => .ok root.toValue
      | none => .error ⟨built.current.line⟩

end MarkLine.Toml
