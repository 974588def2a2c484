import MarkLine.Shape
import MarkLine.Toml.Moment

/-!
# TOML values

A value of a TOML text, with the line of the statement it came from. A table holds its entries in
the order in which the text gives them.
-/

namespace MarkLine.Toml

inductive Value where
  | text (line : Nat) (value : String)
  | integer (line : Nat) (value : Int)
  | float (line : Nat) (value : Double)
  | bool (line : Nat) (value : Bool)
  | moment (line : Nat) (value : Moment)
  | list (line : Nat) (items : List Value)
  | table (line : Nat) (entries : List (String × Value))
  deriving Repr, Inhabited

def Value.line : Value → Nat
  | .text line _ | .integer line _ | .float line _ | .bool line _ | .moment line _ | .list line _
  | .table line _ => line

/-- Messages write every digit of a number in its place. -/
def numberStyle : Decimal.Style := ⟨none⟩

/-- The key under which a moment is kept where only maps, lists and simple values stand. -/
def momentKey : String := "$__toml_private_datetime"

/-- A TOML value shows itself as it is; a moment is seen as a map of one entry. -/
instance : Shape Value where
  view
    | .text _ value => .text value
    | .integer _ value => .integer value
    | .float _ value => .float (numberStyle.write value)
    | .bool _ value => .bool value
    | .moment line value => .map [(momentKey, .text line value.write)]
    | .list _ items => .list items
    | .table _ entries => .map entries
  line := Value.line
  exactLists := false

mutual

/-- The JSON value of a TOML value. A number that is not finite has none and becomes null. -/
def Value.toJson : Value → Json.Value
  | .text _ value => .text value
  | .integer _ value => .number (.int value)
  | .float _ value => if value.isFinite then .number (.float value) else .null
  | .bool _ value => .bool value
  | .moment _ value => .object [(momentKey, .text value.write)]
  | .list _ items => .list (jsonItems items)
  | .table _ entries => .object (Json.Object.ofList (jsonEntries entries))

def jsonItems : List Value → List Json.Value
  | [] => []
  | item :: rest => item.toJson :: jsonItems rest

def jsonEntries : List (String × Value) → List (String × Json.Value)
  | [] => []
  | (key, value) :: rest => (key, value.toJson) :: jsonEntries rest

end

end MarkLine.Toml
