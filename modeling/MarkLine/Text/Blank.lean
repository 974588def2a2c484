import MarkLine.Text.Ranges

/-!
# Blank characters

A blank is a character with the property White_Space: tab to carriage return, the space, the next
line, the no-break space and the spaces and separators of the general punctuation block.
-/

namespace MarkLine.Text

/-- The 25 characters with the property White_Space. -/
def blankRanges : List (Nat × Nat) :=
  [(0x0009, 0x000D), (0x0020, 0x0020), (0x0085, 0x0085), (0x00A0, 0x00A0), (0x1680, 0x1680),
   (0x2000, 0x200A), (0x2028, 0x2029), (0x202F, 0x202F), (0x205F, 0x205F), (0x3000, 0x3000)]

def isBlank (c : Char) : Bool :=
  inRanges blankRanges c.toNat

def trimEnd (text : List Char) : List Char :=
  (text.reverse.dropWhile isBlank).reverse

end MarkLine.Text
