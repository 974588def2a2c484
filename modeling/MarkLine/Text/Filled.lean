import MarkLine.Text.Breaks
import MarkLine.Text.Lines

/-!
# Filled text

A text is filled into lines of a given width: each line takes as many words as fit. Words end where
a line may be broken, and also after a hyphen between two characters of a word; a word that is too
wide for a line by itself is broken anywhere. Every line has a margin, the first one its own.
-/

namespace MarkLine.Text

/-- A word and the number of spaces after it. -/
structure Word where
  text : List Char
  spaces : Nat
  deriving DecidableEq, Repr

/-- The columns of a word without its spaces. -/
def Word.columns (word : Word) : Nat := totalColumns word.text

def Word.ofPiece (piece : List Char) : Word :=
  let text := (piece.reverse.dropWhile (· = ' ')).reverse
  { text, spaces := piece.length - text.length }

/-- Whether a character is part of a word on both sides of a hyphen. -/
def isWordChar (c : Char) : Bool :=
  c.isAlphanum ||
    (0xAA ≤ c.toNat && !isBlank c && !isGraphemeExtend c &&
      !inRanges [(0xAB, 0xB1), (0xB4, 0xB4), (0xB6, 0xB8), (0xBB, 0xBB), (0xBF, 0xBF), (0xD7, 0xD7),
        (0xF7, 0xF7), (0x2000, 0x206F), (0x20A0, 0x20CF), (0x2190, 0x245F), (0x2500, 0x2BFF),
        (0x3000, 0x3004), (0x3008, 0x3020), (0x1F000, 0x1FAFF)] c.toNat)

/-- Cuts a word after its hyphens; `part` holds the characters since the last cut, last first. -/
def hyphenParts (part : List Char) : List Char → List (List Char)
  | [] => [part.reverse]
  | [c] => [(c :: part).reverse]
  | c :: next :: rest =>
    if c = '-' && part.head?.any isWordChar && isWordChar next then
      (c :: part).reverse :: hyphenParts [] (next :: rest)
    else hyphenParts (c :: part) (next :: rest)

/-- Cuts a text into parts of at most `width` columns; `part` holds the characters since the last
cut, last first, and `used` their columns. -/
def widthParts (width : Nat) (part : List Char) (used : Nat) : List Char → List (List Char)
  | [] => if part.isEmpty then [] else [part.reverse]
  | c :: rest =>
    if 0 < used && width < used + columns c then
      part.reverse :: widthParts width [c] (columns c) rest
    else widthParts width (c :: part) (used + columns c) rest

/-- Parts of a word as words: the spaces follow the last one. -/
def withSpaces (spaces : Nat) : List (List Char) → List Word
  | [] => []
  | [part] => [⟨part, spaces⟩]
  | part :: rest => ⟨part, 0⟩ :: withSpaces spaces rest

/-- A word after its hyphens are taken for word ends. -/
def Word.parts (word : Word) : List Word :=
  withSpaces word.spaces (hyphenParts [] word.text)

/-- A word as it is, or its parts if it is wider than `width`. -/
def Word.narrow (width : Nat) (word : Word) : List Word :=
  if width < word.columns then withSpaces word.spaces (widthParts width [] 0 word.text) else [word]

/-- The words of a line, none wider than `width`. -/
def lineWords (width : Nat) (line : List Char) : List Word :=
  ((breakPieces line).flatMap fun piece => (Word.ofPiece piece).parts).flatMap (Word.narrow width)

/-- Words put into lines of at most `width` columns. `line` holds the words of the current line,
last first, and `used` their columns with all spaces. -/
def fillWords (width : Nat) (line : List Word) (used : Nat) : List Word → List (List Word)
  | [] => [line.reverse]
  | word :: rest =>
    if width < used + word.columns && !line.isEmpty then
      line.reverse :: fillWords width [word] (word.columns + word.spaces) rest
    else fillWords width (word :: line) (used + word.columns + word.spaces) rest

/-- The text of a line of words; spaces after the last word are dropped. -/
def lineText : List Word → List Char
  | [] => []
  | [word] => word.text
  | word :: rest => word.text ++ List.replicate word.spaces ' ' ++ lineText rest

/-- The margins of a filled text: of its first line and of all others, both of the same width. -/
structure Margins where
  first : String
  others : String

def Margins.apply (margins : Margins) : List (List Char) → List String
  | [] => []
  | line :: rest =>
    (margins.first ++ String.ofList line) ::
      rest.map fun line => margins.others ++ String.ofList line

/-- A text filled into lines of at most `total` columns, margins included. A line feed in the text
ends a line. -/
def fill (total : Nat) (margins : Margins) (text : String) : List String :=
  let width := total - totalColumns margins.others.toList
  margins.apply ((linesOf text).flatMap fun line =>
    (fillWords width [] 0 (lineWords width line)).map lineText)

end MarkLine.Text
