import MarkLine.Decimal.Power

/-!
# Dates and times

A moment of a TOML text: a date, a time of day or both, with an offset if both are there. A moment
has one written form, whatever separated date and time in the text it came from: a `T` between them,
a capital `Z`, no trailing zeros in the fraction of a second, and seconds cut after nine places.
-/

namespace MarkLine.Toml

structure Date where
  year : Nat
  month : Nat
  day : Nat
  deriving DecidableEq, Repr

/-- A time of day, to the nanosecond. -/
structure Time where
  hour : Nat
  minute : Nat
  second : Nat
  nanosecond : Nat
  deriving DecidableEq, Repr

/-- The distance from universal time: none, or a number of minutes. -/
inductive Offset where
  | utc
  | minutes (count : Int)
  deriving DecidableEq, Repr

/-- A date, a time or both. -/
structure Moment where
  date : Option Date
  time : Option Time
  offset : Option Offset
  deriving DecidableEq, Repr

/-- A number with leading zeros up to a width. -/
def padded (width n : Nat) : List Char :=
  let digits := Nat.toDigits 10 n
  List.replicate (width - digits.length) '0' ++ digits

def Date.write (d : Date) : List Char :=
  padded 4 d.year ++ '-' :: padded 2 d.month ++ '-' :: padded 2 d.day

def Time.write (t : Time) : List Char :=
  padded 2 t.hour ++ ':' :: padded 2 t.minute ++ ':' :: padded 2 t.second ++
    if t.nanosecond = 0 then []
    else '.' :: ((padded 9 t.nanosecond).reverse.dropWhile (· = '0')).reverse

def Offset.write : Offset → List Char
  | .utc => ['Z']
  | .minutes count =>
    (if count < 0 then '-' else '+') ::
      (padded 2 (count.natAbs / 60) ++ ':' :: padded 2 (count.natAbs % 60))

def Moment.write (m : Moment) : String :=
  let date := (m.date.map Date.write).getD []
  let time := (m.time.map Time.write).getD []
  let between : List Char := if m.date.isSome && m.time.isSome then ['T'] else []
  String.ofList (date ++ between ++ time ++ (m.offset.map Offset.write).getD [])

/-! ## Reading -/

/-- Exactly `count` digits and their value. -/
def fixedDigits (count : Nat) (cs : List Char) : Option (Nat × List Char) :=
  let digits := cs.take count
  if digits.length = count && digits.all Char.isDigit then
    some (digits.foldl (fun n c => 10 * n + (c.toNat - 48)) 0, cs.drop count)
  else none

/-- Exactly two digits with a value from `least` to `most`. -/
def twoDigits (least most : Nat) (cs : List Char) : Option (Nat × List Char) := do
  let (n, rest) ← fixedDigits 2 cs
  if least ≤ n && n ≤ most then return (n, rest) else none

def expectChar (c : Char) : List Char → Option (List Char)
  | d :: rest => if d = c then some rest else none
  | [] => none

def daysInMonth (year month : Nat) : Nat :=
  if month = 2 then
    if year % 4 = 0 && (year % 100 != 0 || year % 400 = 0) then 29 else 28
  else if [4, 6, 9, 11].contains month then 30
  else 31

def Date.read? (cs : List Char) : Option (Date × List Char) := do
  let (year, rest) ← fixedDigits 4 cs
  let rest ← expectChar '-' rest
  let (month, rest) ← twoDigits 1 12 rest
  let rest ← expectChar '-' rest
  let (day, rest) ← twoDigits 1 (daysInMonth year month) rest
  return (⟨year, month, day⟩, rest)

/-- The fraction of a second in nanoseconds: places after the ninth are dropped. -/
def nanoseconds (digits : List Char) : Nat :=
  let kept := digits.take 9
  kept.foldl (fun n c => 10 * n + (c.toNat - 48)) 0 * tenTo (9 - kept.length)

def Time.read? (cs : List Char) : Option (Time × List Char) := do
  let (hour, rest) ← twoDigits 0 23 cs
  let rest ← expectChar ':' rest
  let (minute, rest) ← twoDigits 0 59 rest
  let rest ← expectChar ':' rest
  let (second, rest) ← twoDigits 0 60 rest
  match rest with
  | '.' :: more =>
    let digits := more.takeWhile Char.isDigit
    if digits.isEmpty then none
    else return (⟨hour, minute, second, nanoseconds digits⟩, more.dropWhile Char.isDigit)
  | _ => return (⟨hour, minute, second, 0⟩, rest)

/-- An offset at the start of a text, if one is there; a sign must be followed by hours and
minutes. -/
def Offset.read? : List Char → Option (Option Offset × List Char)
  | [] => some (none, [])
  | c :: rest =>
    if c = 'Z' || c = 'z' then some (some .utc, rest)
    else if c = '+' || c = '-' then do
      let (hours, rest) ← twoDigits 0 23 rest
      let rest ← expectChar ':' rest
      let (past, rest) ← twoDigits 0 59 rest
      let count : Int := hours * 60 + past
      return (some (.minutes (if c = '-' then -count else count)), rest)
    else some (none, c :: rest)

/-- A moment at the start of a text. A blank after a date belongs to the moment only if a time
follows. -/
def Moment.read? (cs : List Char) : Option (Moment × List Char) :=
  match Date.read? cs with
  | some (date, rest) =>
    match rest with
    | c :: more =>
      if c = 'T' || c = 't' || c = ' ' then
        match Time.read? more with
        | some (time, rest) => do
          let (offset, rest) ← Offset.read? rest
          return (⟨some date, some time, offset⟩, rest)
        | none => some (⟨some date, none, none⟩, rest)
      else some (⟨some date, none, none⟩, rest)
    | [] => some (⟨some date, none, none⟩, [])
  | none => (Time.read? cs).map fun (time, rest) => (⟨none, some time, none⟩, rest)

end MarkLine.Toml
