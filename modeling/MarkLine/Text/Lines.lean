/-!
# Lines of a text

A text is cut at line feeds and nowhere else: a carriage return stays with the line it ends. A text
without a line feed is one line, so there is always at least one, and joining the lines gives the
text back. `shownLines` is the other reading of a text, the one a report prints: there a final line
feed ends the last line instead of opening an empty one, and a carriage return before a line feed
belongs to the line end.
-/

namespace MarkLine

def linesOf (source : String) : List (List Char) := source.toList.splitOn '\n'

def textOf (lines : List (List Char)) : String := String.ofList (List.intercalate ['\n'] lines)

namespace Text

/-- A line without the carriage return that ends it, if one does. -/
def dropReturn (line : List Char) : List Char :=
  if line.getLast? = some '\r' then line.dropLast else line

/-- Lines as they are shown: the last one counts only if it holds something, and every one that a
line feed ended loses its carriage return. -/
def shown : List (List Char) → List (List Char)
  | [] => []
  | [last] => if last = [] then [] else [last]
  | line :: next :: rest => dropReturn line :: shown (next :: rest)

def shownLines (text : String) : List String :=
  (shown (linesOf text)).map String.ofList

end Text
end MarkLine
