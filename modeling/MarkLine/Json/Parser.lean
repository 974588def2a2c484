import MarkLine.Json.Value
import MarkLine.Text.Hexadecimal

/-!
# Reading JSON

A reader for one JSON text. An integer literal that fits in 64 bits is an integer; one that does
not, a negative zero and every literal with a point or an exponent is a number with a fraction.
Objects are built by `Object.put`, so their keys are in increasing order and a repeated key keeps
its last value.

Every step of the reader gives back the characters it left. The fuel of the nested readers is the
length of the text: each of them takes a character before it calls another.
-/

namespace MarkLine.Json

/-- What a reader gives: a value and the characters after it, or nothing. -/
abbrev Reading (α : Type) := Option (α × List Char)

def skipBlanks (cs : List Char) : List Char :=
  cs.dropWhile fun c => c = ' ' || c = '\n' || c = '\r' || c = '\t'

open Text in
def hex4 : List Char → Option (Nat × List Char)
  | a :: b :: c :: d :: rest => do
    let value := (← hexDigit a) * 4096 + (← hexDigit b) * 256 + (← hexDigit c) * 16 + (← hexDigit d)
    return (value, rest)
  | _ => none

/-- A character written by its code units: one unit, or a high and a low surrogate. -/
def unicodeEscape (cs : List Char) : Option (Char × List Char) := do
  let (unit, rest) ← hex4 cs
  if unit < 0xD800 || 0xDFFF < unit then return (Char.ofNat unit, rest)
  else if 0xDBFF < unit then none
  else match rest with
    | '\\' :: 'u' :: more => do
      let (low, rest) ← hex4 more
      if 0xDC00 ≤ low && low ≤ 0xDFFF then
        return (Char.ofNat (0x10000 + (unit - 0xD800) * 0x400 + (low - 0xDC00)), rest)
      else none
    | _ => none

def shortEscape : Char → Option Char
  | '"' => some '"'
  | '\\' => some '\\'
  | '/' => some '/'
  | 'b' => some '\x08'
  | 'f' => some '\x0c'
  | 'n' => some '\n'
  | 'r' => some '\r'
  | 't' => some '\t'
  | _ => none

/-- The rest of a text after its opening quote; `read` holds the characters read so far, last
first. -/
def textBody : Nat → List Char → List Char → Reading String
  | 0, _, _ => none
  | _ + 1, _, [] => none
  | fuel + 1, read, c :: rest =>
    if c = '"' then some (String.ofList read.reverse, rest)
    else if c = '\\' then
      match rest with
      | 'u' :: more =>
        match unicodeEscape more with
        | some (d, rest) => textBody fuel (d :: read) rest
        | none => none
      | e :: more =>
        match shortEscape e with
        | some d => textBody fuel (d :: read) more
        | none => none
      | [] => none
    else if c.toNat < 0x20 then none
    else textBody fuel (c :: read) rest

def digitsValue (digits : List Char) : Nat :=
  digits.foldl (fun n c => 10 * n + (c.toNat - 48)) 0

def spanDigits (cs : List Char) : List Char × List Char :=
  cs.span Char.isDigit

/-- The fraction of a number: a point and at least one digit, or nothing. -/
def fraction : List Char → Reading (Option (List Char))
  | '.' :: rest =>
    let (digits, rest) := spanDigits rest
    if digits.isEmpty then none else some (some digits, rest)
  | cs => some (none, cs)

/-- The exponent of a number: a mark, an optional sign and at least one digit, or nothing. -/
def exponent : List Char → Reading (Option Int)
  | c :: rest =>
    if c = 'e' || c = 'E' then
      let (negative, rest) := match rest with
        | '-' :: more => (true, more)
        | '+' :: more => (false, more)
        | _ => (false, rest)
      let (digits, rest) := spanDigits rest
      if digits.isEmpty then none
      else
        let size : Int := digitsValue digits
        some (some (if negative then -size else size), rest)
    else some (none, c :: rest)
  | [] => some (none, [])

def Number.ofParts (negative : Bool) (whole : List Char) (fraction : Option (List Char))
    (exponent : Option Int) : Number :=
  match fraction, exponent with
  | none, none =>
    let size := digitsValue whole
    let value : Int := if negative then -size else size
    if negative && size = 0 then .float (Double.zero true)
    else if -(twoTo 63 : Int) ≤ value && value < (twoTo 64 : Int) then .int value
    else .float (Double.ofDecimal negative size 0)
  | _, _ =>
    let places := fraction.getD []
    .float (Double.ofDecimal negative (digitsValue (whole ++ places))
      (exponent.getD 0 - places.length))

/-- A number, after its sign. -/
def unsigned (negative : Bool) (cs : List Char) : Option (Number × List Char) := do
  let (whole, rest) := spanDigits cs
  if whole.isEmpty || (whole.head? = some '0' && 1 < whole.length) then none
  else
    let (places, rest) ← fraction rest
    let (power, rest) ← exponent rest
    return (Number.ofParts negative whole places power, rest)

def word (name : List Char) (value : Value) (cs : List Char) : Reading Value :=
  if name.isPrefixOf cs then some (value, cs.drop name.length) else none

mutual

/-- A value, after the blanks before it. -/
def value : Nat → List Char → Reading Value
  | 0, _ => none
  | fuel + 1, cs =>
    match skipBlanks cs with
    | [] => none
    | '"' :: rest => (textBody (rest.length + 1) [] rest).map fun r => (.text r.1, r.2)
    | '[' :: rest =>
      match skipBlanks rest with
      | ']' :: more => some (.list [], more)
      | more => (items fuel more).map fun r => (.list r.1, r.2)
    | '\x7b' :: rest =>
      match skipBlanks rest with
      | '\x7d' :: more => some (.object [], more)
      | more => (fields fuel [] more).map fun r => (.object r.1, r.2)
    | '-' :: rest => (unsigned true rest).map fun r => (.number r.1, r.2)
    | c :: rest =>
      if c.isDigit then (unsigned false (c :: rest)).map fun r => (.number r.1, r.2)
      else if c = 't' then word ['t', 'r', 'u', 'e'] (.bool true) (c :: rest)
      else if c = 'f' then word ['f', 'a', 'l', 's', 'e'] (.bool false) (c :: rest)
      else word ['n', 'u', 'l', 'l'] .null (c :: rest)

/-- The items of a list from its first one to the closing bracket. -/
def items : Nat → List Char → Reading (List Value)
  | 0, _ => none
  | fuel + 1, cs =>
    match value fuel cs with
    | none => none
    | some (item, rest) =>
      match skipBlanks rest with
      | ']' :: more => some ([item], more)
      | ',' :: more => (items fuel more).map fun r => (item :: r.1, r.2)
      | _ => none

/-- The entries of an object from its next one to the closing brace; `object` holds those before. -/
def fields : Nat → Object → List Char → Reading Object
  | 0, _, _ => none
  | fuel + 1, object, cs =>
    match skipBlanks cs with
    | '"' :: rest =>
      match textBody (rest.length + 1) [] rest with
      | none => none
      | some (key, rest) =>
        match skipBlanks rest with
        | ':' :: rest =>
          match value fuel rest with
          | none => none
          | some (item, rest) =>
            match skipBlanks rest with
            | '\x7d' :: more => some (object.put key item, more)
            | ',' :: more => fields fuel (object.put key item) more
            | _ => none
        | _ => none
    | _ => none

end

/-- The value that a whole text stands for. -/
def parse? (text : String) : Option Value :=
  let cs := text.toList
  match value (cs.length + 1) cs with
  | some (v, rest) => if (skipBlanks rest).isEmpty then some v else none
  | none => none

end MarkLine.Json
