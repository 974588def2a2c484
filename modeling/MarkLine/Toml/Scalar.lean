import MarkLine.Text.Hexadecimal
import MarkLine.Toml.Value

/-!
# Numbers of TOML

Integers in four bases and numbers with a fraction. An underscore may stand between two digits. An
integer fits in 64 bits; a number with a fraction may fall below all bounds, but not rise above
them.
-/

namespace MarkLine.Toml

/-- The digits of a number with the underscores between them left out: at least one digit, and one
after every underscore. -/
def digitRun (isDigit : Char → Bool) : List Char → Option (List Char × List Char)
  | [] => none
  | c :: rest =>
    if isDigit c then
      match rest with
      | '_' :: more => (digitRun isDigit more).map fun (digits, rest) => (c :: digits, rest)
      | d :: more =>
        if isDigit d then
          (digitRun isDigit (d :: more)).map fun (digits, rest) => (c :: digits, rest)
        else some ([c], d :: more)
      | [] => some ([c], [])
    else none

def digitsIn (base : Nat) (digits : List Char) : Nat :=
  digits.foldl (fun n c =>
    base * n + (if c.isDigit then c.toNat - 48 else c.toLower.toNat - 87)) 0

def sign : List Char → Bool × List Char
  | '-' :: rest => (true, rest)
  | '+' :: rest => (false, rest)
  | cs => (false, cs)

/-- The digits before the point: a zero alone, or digits that do not start with one. -/
def wholePart (cs : List Char) : Option (List Char × List Char) :=
  match cs with
  | '0' :: rest => some (['0'], rest)
  | _ => digitRun Char.isDigit cs

def exponentPart : List Char → Option (Option Int × List Char)
  | c :: rest =>
    if c = 'e' || c = 'E' then do
      let (negative, rest) := sign rest
      let (digits, rest) ← digitRun Char.isDigit rest
      let size : Int := digitsIn 10 digits
      return (some (if negative then -size else size), rest)
    else some (none, c :: rest)
  | [] => some (none, [])

/-- An integer that fits in 64 bits. -/
def fitting (line : Nat) (value : Int) : Option Value :=
  if -(twoTo 63 : Int) ≤ value && value < (twoTo 63 : Int) then some (.integer line value) else none

/-- A number with a fraction, which must not be too large. -/
def finiteAbove (line : Nat) (value : Double) : Option Value :=
  if value = Double.infinity false then none else some (.float line value)

/-- An integer in base ten or a number with a fraction. -/
def decimal (line : Nat) (cs : List Char) : Option (Value × List Char) := do
  let (negative, rest) := sign cs
  let (whole, rest) ← wholePart rest
  let (places, rest) ← match rest with
    | '.' :: more => (digitRun Char.isDigit more).map fun (digits, rest) => (some digits, rest)
    | _ => some (none, rest)
  let (exponent, rest) ← exponentPart rest
  match places, exponent with
  | none, none =>
    let size : Int := digitsIn 10 whole
    let value ← fitting line (if negative then -size else size)
    return (value, rest)
  | _, _ =>
    let fraction := places.getD []
    let value ← finiteAbove line (Double.ofDecimal negative (digitsIn 10 (whole ++ fraction))
      (exponent.getD 0 - fraction.length))
    return (value, rest)

/-- An integer in another base, after the mark of the base. -/
def inBase (line base : Nat) (isDigit : Char → Bool) (cs : List Char) :
    Option (Value × List Char) := do
  let (digits, rest) ← digitRun isDigit cs
  let value ← fitting line (digitsIn base digits)
  return (value, rest)

/-- An infinity or no number, after the sign. -/
def special (negative : Bool) : List Char → Option (Double × List Char)
  | 'i' :: 'n' :: 'f' :: rest => some (Double.infinity negative, rest)
  | 'n' :: 'a' :: 'n' :: rest => some (Double.nan, rest)
  | _ => none

def number (line : Nat) (cs : List Char) : Option (Value × List Char) :=
  match cs with
  | '0' :: 'x' :: rest => inBase line 16 (fun c => (Text.hexDigit c).isSome) rest
  | '0' :: 'o' :: rest => inBase line 8 (fun c => '0' ≤ c && c ≤ '7') rest
  | '0' :: 'b' :: rest => inBase line 2 (fun c => c = '0' || c = '1') rest
  | _ =>
    match special (sign cs).1 (sign cs).2 with
    | some (value, rest) => some (.float line value, rest)
    | none => decimal line cs

def truth (line : Nat) : List Char → Option (Value × List Char)
  | 't' :: 'r' :: 'u' :: 'e' :: rest => some (.bool line true, rest)
  | 'f' :: 'a' :: 'l' :: 's' :: 'e' :: rest => some (.bool line false, rest)
  | _ => none

def momentOrNumber (line : Nat) (cs : List Char) : Option (Value × List Char) :=
  match Moment.read? cs with
  | some (moment, rest) => some (.moment line moment, rest)
  | none => number line cs

end MarkLine.Toml
