import MarkLine.Decimal.Double

/-!
# JSON values

The dynamic values that rule options and message data are made of. An integer and a number with a
fraction are different values even where they stand for the same quantity. An object is a list of
keys and values; `Object.put` keeps the keys in increasing order, one entry for each, and every
object that is read from a text is built by it.
-/

namespace MarkLine.Json

inductive Number where
  | int (value : Int)
  | float (value : Double)
  deriving DecidableEq, Repr, Inhabited

inductive Value where
  | null
  | bool (value : Bool)
  | number (value : Number)
  | text (value : String)
  | list (items : List Value)
  | object (fields : List (String × Value))
  deriving Repr, Inhabited

abbrev Object := List (String × Value)

/-- Equality of numbers: an integer never equals a number with a fraction, the two zeros are equal.
-/
def Number.same : Number → Number → Bool
  | .int a, .int b => a == b
  | .float a, .float b => a.same b
  | _, _ => false

mutual

def Value.same : Value → Value → Bool
  | .null, .null => true
  | .bool a, .bool b => a == b
  | .number a, .number b => a.same b
  | .text a, .text b => a == b
  | .list as, .list bs => sameItems as bs
  | .object as, .object bs => sameFields as bs
  | _, _ => false

/-- Equality of lists of values, item by item. -/
def sameItems : List Value → List Value → Bool
  | [], [] => true
  | a :: as, b :: bs => a.same b && sameItems as bs
  | _, _ => false

/-- Equality of objects, entry by entry: both sides hold their keys in increasing order. -/
def sameFields : List (String × Value) → List (String × Value) → Bool
  | [], [] => true
  | (k, a) :: as, (l, b) :: bs => k == l && a.same b && sameFields as bs
  | _, _ => false

end

/-- Sets a key of an object whose keys are in increasing order, keeping them so. -/
def Object.put (key : String) (value : Value) : Object → Object
  | [] => [(key, value)]
  | (k, v) :: rest =>
    if key < k then (key, value) :: (k, v) :: rest
    else if key = k then (key, value) :: rest
    else (k, v) :: Object.put key value rest

/-- The object with the given entries, of which a later one replaces an earlier one of its key. -/
def Object.ofList (entries : List (String × Value)) : Object :=
  entries.foldl (fun object entry => object.put entry.1 entry.2) []

/-- A field of a record, left out when there is no value for it. -/
def optional {α : Type} (name : String) (encode : α → Value) : Option α → Object
  | none => []
  | some value => [(name, encode value)]

def Value.nat (n : Nat) : Value := .number (.int n)

def Value.text? : Option String → Value
  | none => .null
  | some chars => .text chars

end MarkLine.Json
