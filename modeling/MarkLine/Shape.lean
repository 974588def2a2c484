import MarkLine.Json.Printer

/-!
# Reading records out of values

Cases arrive as JSON values and suites as TOML values. Both are read through `View`, what a reader
sees of a value, so one set of readers and one set of messages serves both.

A record is read in two passes. The first checks the value of every known key in the order in which
the keys stand in the value, and the first bad value is the error. The second builds the record and
reports the first declared field that is missing. Unknown keys are passed over. A list can stand
for a record too: its items are the fields in the order of their declaration.
-/

namespace MarkLine

/-- What a reader sees of a value. A number with a fraction is seen as it is written. -/
inductive View (α : Type) where
  | null
  | bool (value : Bool)
  | integer (value : Int)
  | float (written : String)
  | text (value : String)
  | list (items : List α)
  | map (entries : List (String × α))

/-- Values that can be read: each has a view and the line it stands on, zero if it has none. -/
class Shape (α : Type) where
  view : α → View α
  line : α → Nat
  /-- Whether a list that stands for a record may have no more items than the record has fields. -/
  exactLists : Bool

/-- The kind of a value, and the value itself where it is a simple one. -/
def View.describe {α : Type} : View α → String
  | .null => "null"
  | .bool value => "boolean `" ++ (if value then "true" else "false") ++ "`"
  | .integer value => "integer `" ++ toString value ++ "`"
  | .float written => "floating point `" ++ written ++ "`"
  | .text value => "string " ++ Text.quote value
  | .list _ => "sequence"
  | .map _ => "map"

/-- Why a value does not have the shape it should have. -/
inductive ShapeFault where
  /-- A value of the wrong kind. -/
  | unexpected (found expected : String)
  /-- A number below zero where only natural numbers stand. -/
  | negative (value : Int)
  /-- A record without one of its fields. -/
  | missing (field : String)
  /-- A list with too few or too many items. -/
  | length (found : Nat) (expected : String)
  /-- A value that has none of the forms of its type. -/
  | noForm (type : String)
  deriving DecidableEq, Repr

def ShapeFault.message : ShapeFault → String
  | .unexpected found expected => "invalid type: " ++ found ++ ", expected " ++ expected
  | .negative value => "invalid value: integer `" ++ toString value ++ "`, expected usize"
  | .missing field => "missing field `" ++ field ++ "`"
  | .length found expected => "invalid length " ++ toString found ++ ", expected " ++ expected
  | .noForm type => "data did not match any variant of untagged enum " ++ type

/-- A shape fault and the line of the value that has it. -/
structure ShapeError where
  line : Nat
  fault : ShapeFault
  deriving DecidableEq, Repr

abbrev Read (β : Type) := Except ShapeError β

namespace Shape

variable {α β γ : Type} [Shape α]

/-- The error of a value of the wrong kind. -/
def unexpected (v : α) (expected : String) : Read β :=
  .error ⟨line v, .unexpected (view v).describe expected⟩

/-- A text, named by `expected` in the error. -/
def textAs (expected : String) (v : α) : Read String :=
  match view v with
  | .text value => .ok value
  | _ => unexpected v expected

def text (v : α) : Read String := textAs "a string" v

def bool (v : α) : Read Bool :=
  match view v with
  | .bool value => .ok value
  | _ => unexpected v "a boolean"

def nat (v : α) : Read Nat :=
  match view v with
  | .integer (.ofNat value) => .ok value
  | .integer value => .error ⟨line v, .negative value⟩
  | _ => unexpected v "usize"

/-- All items of a list, read in order. -/
def items (read : α → Read β) : List α → Read (List β)
  | [] => .ok []
  | v :: rest => do
    let first ← read v
    let others ← items read rest
    return first :: others

def list (read : α → Read β) (v : α) : Read (List β) :=
  match view v with
  | .list vs => items read vs
  | _ => unexpected v "a sequence"

/-- A map, its entries taken as they stand. -/
def map (v : α) : Read (List (String × α)) :=
  match view v with
  | .map entries => .ok entries
  | _ => unexpected v "a map"

def nullable (read : α → Read β) (v : α) : Read (Option β) :=
  match view v with
  | .null => .ok none
  | _ => some <$> read v

end Shape

/-- How a record of type `β` is read from a map, by the names of its fields, or from a list, by
their order. -/
structure Record (α β : Type) where
  /-- The checks of the known keys of a map. -/
  checks : List (String × (α → Read Unit))
  /-- The record built from the entries of a map that stands on a line. -/
  build : Nat → List (String × α) → Read β
  /-- How many fields there are. -/
  size : Nat
  /-- The record built from the first items of a list, and the items after them. The function gives
  the error of a list that ends before the field with a number, and the number is that of the first
  field. -/
  inOrder : (Nat → ShapeError) → Nat → List α → Read (β × List α)

namespace Record

variable {α β γ : Type}

/-- A record that reads nothing. -/
def const (value : β) : Record α β :=
  ⟨[], fun _ _ => .ok value, 0, fun _ _ items => .ok (value, items)⟩

def andThen (f : Record α (β → γ)) (r : Record α β) : Record α γ :=
  ⟨f.checks ++ r.checks, fun line entries => do
    let make ← f.build line entries
    let value ← r.build line entries
    return make value,
   f.size + r.size, fun short number items => do
    let (make, rest) ← f.inOrder short number items
    let (value, rest) ← r.inOrder short (number + f.size) rest
    return (make value, rest)⟩

instance : Applicative (Record α) where
  pure := const
  seq f r := andThen f (r ())

/-- A field with a name, and what a map or a list gives that does not have it. -/
def field (name : String) (read : α → Read β) (inMap : ShapeError → Read β)
    (inList : ShapeError → Read β) : Record α β :=
  ⟨[(name, fun v => (fun _ => ()) <$> read v)],
   fun line entries =>
    match entries.lookup name with
    | some v => read v
    | none => inMap ⟨line, .missing name⟩,
   1, fun short number items =>
    match items with
    | v :: rest => (fun value => (value, rest)) <$> read v
    | [] => (fun value => (value, [])) <$> inList (short number)⟩

def required (name : String) (read : α → Read β) : Record α β :=
  field name read .error .error

def withDefault (name : String) (default : β) (read : α → Read β) : Record α β :=
  field name read (fun _ => .ok default) (fun _ => .ok default)

def optional [Shape α] (name : String) (read : α → Read β) : Record α (Option β) :=
  withDefault name none (Shape.nullable read)

/-- A field that may be null, and missing in a map but not in a list. -/
def nullable [Shape α] (name : String) (read : α → Read β) : Record α (Option β) :=
  field name (Shape.nullable read) (fun _ => .ok none) .error

/-- Checks the known keys among the entries, in the order of the entries. -/
def checkEntries (checks : List (String × (α → Read Unit))) : List (String × α) → Read Unit
  | [] => .ok ()
  | (key, v) :: rest => do
    match checks.lookup key with
    | some check => check v
    | none => .ok ()
    checkEntries checks rest

/-- How the list form of a record is called in errors. -/
def listForm (type : String) (size : Nat) : String :=
  "struct " ++ type ++ " with " ++ toString size ++ (if size = 1 then " element" else " elements")

def read [Shape α] (type : String) (r : Record α β) (v : α) : Read β :=
  match Shape.view v with
  | .map entries => do
    checkEntries r.checks entries
    r.build (Shape.line v) entries
  | .list items => do
    let (value, rest) ←
      r.inOrder (fun number => ⟨Shape.line v, .length number (listForm type r.size)⟩) 0 items
    if Shape.exactLists α && !rest.isEmpty then
      throw ⟨Shape.line v, .length items.length "fewer elements in array"⟩
    else return value
  | _ => Shape.unexpected v ("struct " ++ type)

end Record

/-- A JSON value shows itself as it is and stands on no line. -/
instance : Shape Json.Value where
  view
    | .null => .null
    | .bool value => .bool value
    | .number (.int value) => .integer value
    | .number (.float value) => .float (Json.numberStyle.write value)
    | .text value => .text value
    | .list items => .list items
    | .object fields => .map fields
  line _ := 0
  exactLists := true

end MarkLine
