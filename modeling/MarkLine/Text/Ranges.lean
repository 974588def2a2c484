/-!
# Ranges of code points

Classes of characters are given as tables of ranges of code points, both ends included.
-/

namespace MarkLine.Text

/-- Whether a code point lies in one of the ranges of a table. -/
def inRanges (table : List (Nat × Nat)) (code : Nat) : Bool :=
  table.any fun range => range.1 ≤ code && code ≤ range.2

end MarkLine.Text
