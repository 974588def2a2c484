import MarkLine.Text.Blank
import MarkLine.Text.Columns

/-!
# Where a line may be broken

A line may be broken after spaces and, within what stands between spaces, where two neighbours do
not hold together: not before closing brackets, exclamation marks, commas and slashes, not after
opening brackets, not at quotes, and not inside words and numbers. Each character belongs to a
class, and the classes on both sides of a place decide.
-/

namespace MarkLine.Text

/-- What a character does to the places beside it. -/
inductive BreakClass where
  | lineEnd
  | space
  | zeroSpace
  | combining
  | joiner
  | glue
  | closing
  | closingParen
  | exclamation
  | separator
  | slash
  | opening
  | quote
  | breakAfter
  | hyphen
  | digit
  | currency
  | percent
  | letter
  | ideograph
  | ellipsis
  deriving DecidableEq, Repr

def asciiClass (c : Char) : BreakClass :=
  if c = ' ' then .space
  else if c = '\t' || c = '|' then .breakAfter
  else if c = '\n' || c = '\r' || c = '\x0b' || c = '\x0c' then .lineEnd
  else if c.toNat < 0x20 || c = '\x7f' then .combining
  else if c = '!' || c = '?' then .exclamation
  else if c = '"' || c = '\'' then .quote
  else if c = '$' || c = '+' || c = '\\' then .currency
  else if c = '%' then .percent
  else if c = '(' || c = '[' || c = '\x7b' then .opening
  else if c = ')' || c = ']' then .closingParen
  else if c = '\x7d' then .closing
  else if c = ',' || c = '.' || c = ':' || c = ';' then .separator
  else if c = '-' then .hyphen
  else if c = '/' then .slash
  else if c.isDigit then .digit
  else .letter

def breakClass (c : Char) : BreakClass :=
  let code := c.toNat
  if code < 0x80 then asciiClass c
  else if inRanges [(0x85, 0x85), (0x2028, 0x2029)] code then .lineEnd
  else if inRanges [(0xA0, 0xA0), (0x2007, 0x2007), (0x2011, 0x2011), (0x202F, 0x202F)] code then
    .glue
  else if code = 0x200B then .zeroSpace
  else if code = 0x2060 || code = 0xFEFF then .joiner
  else if isGraphemeExtend c || code = 0x200D then .combining
  else if inRanges [(0xAD, 0xAD), (0x2010, 0x2010), (0x2012, 0x2013)] code || isBlank c then
    .breakAfter
  else if inRanges [(0xAB, 0xAB), (0xBB, 0xBB), (0x2018, 0x2019), (0x201B, 0x201D),
      (0x201F, 0x201F)] code then .quote
  else if inRanges [(0xA1, 0xA1), (0xBF, 0xBF), (0x201A, 0x201A), (0x201E, 0x201E)] code then
    .opening
  else if inRanges [(0xA3, 0xA5), (0xB1, 0xB1), (0x20AC, 0x20AC)] code then .currency
  else if inRanges [(0xA2, 0xA2), (0xB0, 0xB0)] code then .percent
  else if code = 0x2026 then .ellipsis
  else if inRanges [(0x3001, 0x3002), (0xFF0C, 0xFF0C), (0xFF0E, 0xFF0E)] code then .closing
  else if isWide c || code = 0x2014 then .ideograph
  else .letter

/-- The pairs of classes that hold together when nothing stands between them. -/
def holdTogether : BreakClass → BreakClass → Bool
  | .letter, .letter | .letter, .digit | .digit, .letter | .digit, .digit => true
  | .currency, .letter | .percent, .letter | .letter, .currency | .letter, .percent => true
  | .currency, .ideograph | .ideograph, .percent => true
  | .closing, .percent | .closing, .currency => true
  | .closingParen, .percent | .closingParen, .currency => true
  | .digit, .percent | .digit, .currency => true
  | .percent, .opening | .percent, .digit | .currency, .opening | .currency, .digit => true
  | .hyphen, .digit | .separator, .digit | .slash, .digit => true
  | .separator, .letter => true
  | .letter, .opening | .digit, .opening | .closingParen, .letter | .closingParen, .digit => true
  | _, _ => false

/-- Whether a line may be broken between two characters, of which the first may be followed by
spaces. -/
def mayBreak (before : BreakClass) (spaced : Bool) (after : BreakClass) : Bool :=
  if before = .lineEnd && !spaced then true
  else if after = .lineEnd || after = .zeroSpace then false
  else if before = .zeroSpace then true
  else if after = .joiner || (before = .joiner && !spaced) then false
  else if before = .glue && !spaced then false
  else if after = .glue && !spaced && before != .breakAfter && before != .hyphen then false
  else if after = .closing || after = .closingParen || after = .exclamation || after = .separator ||
      after = .slash then false
  else if before = .opening then false
  else if before = .quote && after = .opening then false
  else if spaced then true
  else if before = .quote || after = .quote then false
  else if after = .breakAfter || after = .hyphen || after = .ellipsis then false
  else !holdTogether before after

/-- A hyphen is no place to break at here, and neither is a soft one. -/
def breaksOff (c : Char) : Bool :=
  c = '-' || c.toNat = 0xAD

/-- Cuts a line wherever it may be broken. `piece` holds the characters since the last cut, last
first; `before` and `spaced` say what stands before the rest. -/
def cutFrom (piece : List Char) (before : BreakClass) (spaced : Bool) :
    List Char → List (List Char)
  | [] => if piece.isEmpty then [] else [piece.reverse]
  | c :: rest =>
    let kind := breakClass c
    let ended := before = .lineEnd && !spaced
    let attached := kind = .combining && !spaced && !ended && before != .zeroSpace
    let cls := if kind = .combining then .letter else kind
    let cut := !attached && (if kind = .space then ended else mayBreak before spaced cls) &&
      !(piece.head?.any breaksOff)
    let state := if attached then (before, spaced)
      else if kind = .space then (before, true)
      else (cls, false)
    if cut && !piece.isEmpty then piece.reverse :: cutFrom [c] state.1 state.2 rest
    else cutFrom (c :: piece) state.1 state.2 rest

/-- The pieces of a line between the places where it may be broken. -/
def breakPieces : List Char → List (List Char)
  | [] => []
  | c :: rest =>
    let kind := breakClass c
    cutFrom [c] (if kind = .combining then .letter else kind) (kind = .space) rest

end MarkLine.Text
