import MarkLine.Toml.Value

/-!
# Tables under construction

While a TOML text is read, its tables are still open: a header or a dotted key may add to them
later. What may be added depends on how a table came to be. A table that a header named is closed
to dotted keys from outside; one that was only implied, because it lies on the way to another, may
still get a header of its own; one that a dotted key made grows by dotted keys only. A value, an
inline table or a list included, is closed to all.
-/

namespace MarkLine.Toml

/-- What stands under a key while the text is read. -/
inductive Node where
  /-- A finished value. -/
  | value (value : Value)
  /-- A table: whether it was only implied, and whether dotted keys made it. -/
  | table (line : Nat) (implied dotted : Bool) (entries : List (String × Node))
  /-- A list of tables, each with its line. -/
  | rows (line : Nat) (tables : List (Nat × List (String × Node)))
  deriving Inhabited

/-- A table that is open for changes. -/
structure Table where
  line : Nat
  implied : Bool := false
  dotted : Bool := false
  entries : List (String × Node) := []
  deriving Inhabited

def Table.toNode (t : Table) : Node := .table t.line t.implied t.dotted t.entries

/-- Puts a node in the place of the one under a key, which is there. -/
def replaceEntry (key : String) (node : Node) (entries : List (String × Node)) :
    List (String × Node) :=
  entries.map fun entry => if entry.1 = key then (key, node) else entry

/-- Changes the table at the end of a path and gives what the change found there. Missing tables on
the way are implied ones, made by a dotted key if `dotted`; of a list of tables the last one is
meant. There is no way through a value, nor for a dotted key through a table that a header named.
-/
def Table.edit {β : Type} (dotted : Bool) (line : Nat) (change : Table → Option (β × Table)) :
    List String → Table → Option (β × Table)
  | [], t => change t
  | key :: path, t =>
    match t.entries.lookup key with
    | none => do
      let (found, inner) ← Table.edit dotted line change path { line, implied := true, dotted }
      return (found, { t with entries := t.entries ++ [(key, inner.toNode)] })
    | some (.value _) => none
    | some (.table innerLine implied innerDotted entries) =>
      if dotted && !implied then none
      else do
        let (found, inner) ←
          Table.edit dotted line change path ⟨innerLine, implied, innerDotted, entries⟩
        return (found, { t with entries := replaceEntry key inner.toNode t.entries })
    | some (.rows rowsLine tables) =>
      match tables.getLast? with
      | none => none
      | some (rowLine, entries) => do
        let (found, inner) ← Table.edit dotted line change path { line := rowLine, entries }
        let rows := Node.rows rowsLine (tables.dropLast ++ [(rowLine, inner.entries)])
        return (found, { t with entries := replaceEntry key rows t.entries })

def Table.update (dotted : Bool) (line : Nat) (change : Table → Option Table) (path : List String)
    (t : Table) : Option Table :=
  (t.edit dotted line (fun inner => (change inner).map fun changed => ((), changed)) path).map (·.2)

def Table.insertNew (key : String) (node : Node) (t : Table) : Option Table :=
  match t.entries.lookup key with
  | none => some { t with entries := t.entries ++ [(key, node)] }
  | some _ => none

/-- Sets the key at the end of a path, which must be new. A plain key belongs to a table that dotted
keys did not make, a dotted one to a table that they did. -/
def Table.assign (path : List String) (value : Value) (t : Table) : Option Table :=
  match path.getLast? with
  | none => none
  | some key =>
    let way := path.dropLast
    t.update true value.line (fun inner =>
      if inner.dotted = way.isEmpty then none else inner.insertNew key (.value value)) way

mutual

def Node.toValue : Node → Value
  | .value value => value
  | .table line _ _ entries => .table line (entryValues entries)
  | .rows line tables => .list line (rowValues tables)

def entryValues : List (String × Node) → List (String × Value)
  | [] => []
  | (key, node) :: rest => (key, node.toValue) :: entryValues rest

def rowValues : List (Nat × List (String × Node)) → List Value
  | [] => []
  | (line, entries) :: rest => .table line (entryValues entries) :: rowValues rest

end

def Table.toValue (t : Table) : Value := .table t.line (entryValues t.entries)

end MarkLine.Toml
