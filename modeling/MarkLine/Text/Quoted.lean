import MarkLine.Text.GraphemeExtend
import MarkLine.Text.Hexadecimal
import MarkLine.Text.Unprintable

/-!
# Quoted text

Messages show a piece of foreign text in quotes, so that every character of it can be seen. The
quote in use, the backslash and the four common controls have short escapes; a character that
extends its neighbour or is not printable is written by its code point.
-/

namespace MarkLine.Text

/-- A character written by its code point. -/
def byCode (c : Char) : List Char :=
  '\\' :: 'u' :: '\x7b' :: (hex c.toNat ++ ['\x7d'])

/-- Whether a character beyond the short escapes is written by its code point. -/
def needsCode (c : Char) : Bool :=
  if 0x20 ≤ c.toNat && c.toNat < 0x7F then false
  else isGraphemeExtend c || isUnprintable c

/-- One character inside quotes of the kind `mark`. -/
def escape (mark : Char) (c : Char) : List Char :=
  if c = mark || c = '\\' then ['\\', c]
  else if c = '\n' then ['\\', 'n']
  else if c = '\r' then ['\\', 'r']
  else if c = '\t' then ['\\', 't']
  else if c = '\x00' then ['\\', '0']
  else if needsCode c then byCode c
  else [c]

/-- A text in double quotes. -/
def quote (text : String) : String :=
  String.ofList ('"' :: (text.toList.flatMap (escape '"') ++ ['"']))

def quoteChar (c : Char) : String :=
  String.ofList ('\'' :: (escape '\'' c ++ ['\'']))

end MarkLine.Text
