import MarkLine.Decimal.Style
import MarkLine.Json.Value
import MarkLine.Text.Quoted

/-!
# Written JSON

Three written forms of a value: on one line, laid out over lines with two spaces per level, and the
form in which messages show a value, where every part is named by its kind.
-/

namespace MarkLine.Json

/-- Numbers with a fraction are written digit by digit from one hundred-thousandth to below ten to
the sixteenth, and with an exponent beyond. -/
def numberStyle : Decimal.Style := ⟨some (-5, 16)⟩

def Number.write : Number → String
  | .int value => toString value
  | .float value => numberStyle.write value

/-- One character inside a JSON text: quote, backslash and controls are escaped. -/
def escape (c : Char) : List Char :=
  if c = '"' || c = '\\' then ['\\', c]
  else if c = '\n' then ['\\', 'n']
  else if c = '\r' then ['\\', 'r']
  else if c = '\t' then ['\\', 't']
  else if c = '\x08' then ['\\', 'b']
  else if c = '\x0c' then ['\\', 'f']
  else if c.toNat < 0x20 then
    let digits := Text.hex c.toNat
    ['\\', 'u'] ++ List.replicate (4 - digits.length) '0' ++ digits
  else [c]

def writeText (text : String) : String :=
  String.ofList ('"' :: (text.toList.flatMap escape ++ ['"']))

mutual

/-- A value on one line. -/
def Value.compact : Value → String
  | .null => "null"
  | .bool value => if value then "true" else "false"
  | .number value => value.write
  | .text value => writeText value
  | .list items => "[" ++ String.intercalate "," (compactItems items) ++ "]"
  | .object fields => "\x7b" ++ String.intercalate "," (compactFields fields) ++ "\x7d"

def compactItems : List Value → List String
  | [] => []
  | item :: rest => item.compact :: compactItems rest

def compactFields : List (String × Value) → List String
  | [] => []
  | (key, value) :: rest => (writeText key ++ ":" ++ value.compact) :: compactFields rest

end

/-- A line end and the indentation of a level. -/
def newline (level : Nat) : String :=
  "\n" ++ String.ofList (List.replicate (2 * level) ' ')

/-- Parts between brackets, one to a line, indented by one level more than the brackets. -/
def bracketed (level : Nat) (opening closing : String) (parts : List String) : String :=
  if parts.isEmpty then opening ++ closing
  else
    opening ++ newline (level + 1) ++ String.intercalate ("," ++ newline (level + 1)) parts ++
      newline level ++ closing

mutual

/-- A value laid out over lines, at a level of indentation. -/
def Value.layout (level : Nat) : Value → String
  | .null => "null"
  | .bool value => if value then "true" else "false"
  | .number value => value.write
  | .text value => writeText value
  | .list items => bracketed level "[" "]" (layoutItems (level + 1) items)
  | .object fields => bracketed level "\x7b" "\x7d" (layoutFields (level + 1) fields)

def layoutItems (level : Nat) : List Value → List String
  | [] => []
  | item :: rest => item.layout level :: layoutItems level rest

def layoutFields (level : Nat) : List (String × Value) → List String
  | [] => []
  | (key, value) :: rest =>
    (writeText key ++ ": " ++ value.layout level) :: layoutFields level rest

end

def Value.pretty (value : Value) : String :=
  value.layout 0

mutual

/-- A value as messages show it. -/
def Value.inspect : Value → String
  | .null => "Null"
  | .bool value => if value then "Bool(true)" else "Bool(false)"
  | .number value => "Number(" ++ value.write ++ ")"
  | .text value => "String(" ++ Text.quote value ++ ")"
  | .list items => "Array [" ++ String.intercalate ", " (inspectItems items) ++ "]"
  | .object fields => "Object \x7b" ++ String.intercalate ", " (inspectFields fields) ++ "\x7d"

def inspectItems : List Value → List String
  | [] => []
  | item :: rest => item.inspect :: inspectItems rest

def inspectFields : List (String × Value) → List String
  | [] => []
  | (key, value) :: rest => (Text.quote key ++ ": " ++ value.inspect) :: inspectFields rest

end

def Object.inspect (object : Object) : String :=
  "\x7b" ++ String.intercalate ", " (inspectFields object) ++ "\x7d"

end MarkLine.Json
