import MarkLine.Text.Hexadecimal

/-!
# Words of TOML

Blanks, comments, line ends, keys and texts. Every reader takes the characters before it and gives
what it read with the characters it left, or nothing if the text is not well formed.
-/

namespace MarkLine.Toml

def skipBlanks (cs : List Char) : List Char :=
  cs.dropWhile fun c => c = ' ' || c = '\t'

/-- A line end: a line feed, before which a carriage return may stand. -/
def newline? : List Char → Option (List Char)
  | '\n' :: rest => some rest
  | '\r' :: '\n' :: rest => some rest
  | _ => none

/-- Characters that may stand in a comment and, apart from their quotes, in texts: the tab and all
but the controls. -/
def isPlain (c : Char) : Bool :=
  c = '\t' || (0x20 ≤ c.toNat && c.toNat != 0x7F)

/-- Drops a comment, if one starts here, up to the end of its line. -/
def skipComment : List Char → List Char
  | '#' :: rest => rest.dropWhile isPlain
  | cs => cs

/-- The end of a statement: blanks, maybe a comment, and a line end or the end of the text. -/
def lineEnd (cs : List Char) : Option (List Char) :=
  match skipComment (skipBlanks cs) with
  | [] => some []
  | rest => newline? rest

/-- Drops blanks, comments and line ends, as they stand between the items of a list. -/
def skipLayout : Nat → List Char → List Char
  | 0, cs => cs
  | fuel + 1, cs =>
    match skipComment (skipBlanks cs) with
    | [] => []
    | rest =>
      match newline? rest with
      | some more => skipLayout fuel more
      | none => rest

/-! ## Texts -/

/-- The character with the code point that exactly `count` hexadecimal digits give. -/
def codePoint (count : Nat) (cs : List Char) : Option (Char × List Char) := do
  let digits ← (cs.take count).mapM Text.hexDigit
  let code := digits.foldl (fun n d => 16 * n + d) 0
  if digits.length = count && (code < 0xD800 || (0xDFFF < code && code < 0x110000)) then
    return (Char.ofNat code, cs.drop count)
  else none

def escape : List Char → Option (Char × List Char)
  | [] => none
  | c :: rest =>
    if c = 'b' then some ('\x08', rest)
    else if c = 't' then some ('\t', rest)
    else if c = 'n' then some ('\n', rest)
    else if c = 'f' then some ('\x0c', rest)
    else if c = 'r' then some ('\r', rest)
    else if c = '"' then some ('"', rest)
    else if c = '\\' then some ('\\', rest)
    else if c = 'u' then codePoint 4 rest
    else if c = 'U' then codePoint 8 rest
    else none

/-- The rest of a text on one line in double quotes; `read` holds its characters so far, last
first. -/
def basicText : Nat → List Char → List Char → Option (String × List Char)
  | 0, _, _ => none
  | _ + 1, _, [] => none
  | fuel + 1, read, c :: rest =>
    if c = '"' then some (String.ofList read.reverse, rest)
    else if c = '\\' then
      match escape rest with
      | some (d, more) => basicText fuel (d :: read) more
      | none => none
    else if isPlain c then basicText fuel (c :: read) rest
    else none

/-- The rest of a text on one line in single quotes, which knows no escapes. -/
def literalText (cs : List Char) : Option (String × List Char) :=
  let body := cs.takeWhile fun c => isPlain c && c != '\''
  match cs.drop body.length with
  | '\'' :: rest => some (String.ofList body, rest)
  | _ => none

/-- Drops blanks and line ends. -/
def skipBlankLines : Nat → List Char → List Char
  | 0, cs => cs
  | fuel + 1, cs =>
    match newline? (skipBlanks cs) with
    | some more => skipBlankLines fuel more
    | none => skipBlanks cs

/-- The rest of a text over several lines. A backslash at the end of a line drops the line end and
the blanks after it; one or two quotes are text; three close it, and up to two before them are
text. -/
def longText (mark : Char) (escapes : Bool) : Nat → List Char → List Char →
    Option (String × List Char)
  | 0, _, _ => none
  | _ + 1, _, [] => none
  | fuel + 1, read, c :: rest =>
    if c = mark then
      let count := ((c :: rest).takeWhile (· = mark)).length
      let after := (c :: rest).drop count
      if count < 3 then longText mark escapes fuel (List.replicate count mark ++ read) after
      else if count ≤ 5 then
        some (String.ofList (List.replicate (count - 3) mark ++ read).reverse, after)
      else none
    else if escapes && c = '\\' then
      match newline? (skipBlanks rest) with
      | some more => longText mark escapes fuel read (skipBlankLines fuel more)
      | none =>
        match escape rest with
        | some (d, more) => longText mark escapes fuel (d :: read) more
        | none => none
    else if isPlain c then longText mark escapes fuel (c :: read) rest
    else
      match newline? (c :: rest) with
      | some more => longText mark escapes fuel ('\n' :: read) more
      | none => none

/-- The characters without the line end that may follow the opening of a long text. -/
def dropFirstNewline (cs : List Char) : List Char :=
  (newline? cs).getD cs

/-- A text, of any of the four kinds. -/
def anyText : List Char → Option (String × List Char)
  | '"' :: '"' :: '"' :: rest =>
    let body := dropFirstNewline rest
    longText '"' true (body.length + 1) [] body
  | '\'' :: '\'' :: '\'' :: rest =>
    let body := dropFirstNewline rest
    longText '\'' false (body.length + 1) [] body
  | '"' :: rest => basicText (rest.length + 1) [] rest
  | '\'' :: rest => literalText rest
  | _ => none

/-! ## Keys -/

/-- Characters of a key without quotes. -/
def isBareKey (c : Char) : Bool :=
  c.isAlphanum || c = '-' || c = '_'

/-- One part of a key: bare, or a text on one line. -/
def keyPart (cs : List Char) : Option (String × List Char) :=
  match cs with
  | '"' :: rest => basicText (rest.length + 1) [] rest
  | '\'' :: rest => literalText rest
  | _ =>
    let name := cs.takeWhile isBareKey
    if name.isEmpty then none else some (String.ofList name, cs.drop name.length)

/-- The parts of a key, divided by points, with blanks around each. -/
def keyParts : Nat → List Char → Option (List String × List Char)
  | 0, _ => none
  | fuel + 1, cs =>
    match keyPart (skipBlanks cs) with
    | none => none
    | some (name, rest) =>
      match skipBlanks rest with
      | '.' :: more => (keyParts fuel more).map fun (names, rest) => (name :: names, rest)
      | rest => some ([name], rest)

/-- Keys and values nest less deep than this. -/
def depthLimit : Nat := 80

/-- A key, which has fewer parts than the depth limit. -/
def key (cs : List Char) : Option (List String × List Char) :=
  match keyParts (cs.length + 1) cs with
  | some (names, rest) => if names.length < depthLimit then some (names, rest) else none
  | none => none

end MarkLine.Toml
