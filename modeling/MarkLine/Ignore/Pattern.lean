/-!
# Patterns of ignore files

A pattern of an ignore file is matched against the bytes of a path. `?` and `*` stop at slashes, a
class is one byte and may be a slash, and a brace group is a choice. Two stars that make up a whole
component stand for any number of components: at the start, between two slashes, or at the end,
where they need at least a slash before them. Elsewhere two stars are two single ones. A bracket
that no other closes stands for itself, and so do all brackets after it.
-/

namespace MarkLine.Ignore

inductive Token where
  /-- One character, matched byte by byte. -/
  | char (c : Char)
  /-- Any byte but a slash. -/
  | any
  /-- Any bytes but slashes. -/
  | run
  /-- One byte of a class. -/
  | within (ranges : List (Char × Char))
  /-- One byte outside a class. -/
  | except (ranges : List (Char × Char))
  /-- Any number of components from the start on. -/
  | leading
  /-- A slash, and any number of components that slashes end. -/
  | inner
  /-- A slash and anything after it. -/
  | trailing
  /-- One of some sequences of tokens. -/
  | choice (branches : List (List Token))
  deriving Repr

/-- Why a pattern is not well formed. -/
inductive PatternFault where
  | invalidRange (first last : Char)
  | unopenedGroup
  | unclosedGroup
  | danglingEscape
  deriving DecidableEq, Repr

def PatternFault.message : PatternFault → String
  | .invalidRange first last =>
    "invalid range; '" ++ String.singleton first ++ "' > '" ++ String.singleton last ++ "'"
  | .unopenedGroup =>
    "unopened alternate group; missing '\x7b' (maybe escape '\x7d' with '[\x7d]'?)"
  | .unclosedGroup =>
    "unclosed alternate group; missing '\x7d' (maybe escape '\x7b' with '[\x7b]'?)"
  | .danglingEscape => "dangling '\\'"

/-! ## Reading -/

/-- The ranges of a class, last first, and what follows its closing bracket; nothing if none closes
it. A bracket closes the class unless it comes first, and a dash between two characters makes a
range. -/
def classRanges (first inRange : Bool) (ranges : List (Char × Char)) :
    List Char → Except PatternFault (Option (List (Char × Char) × List Char))
  | [] => .ok none
  | c :: rest =>
    if c = ']' && !first then
      .ok (some (if inRange then ('-', '-') :: ranges else ranges, rest))
    else if c = '-' && !first && !inRange then classRanges false true ranges rest
    else
      match inRange, ranges with
      | true, (low, _) :: others =>
        if c < low then .error (.invalidRange low c)
        else classRanges false false ((low, c) :: others) rest
      | _, _ => classRanges false false ((c, c) :: ranges) rest

def readClass (cs : List Char) : Except PatternFault (Option (Token × List Char)) :=
  match cs with
  | '!' :: rest | '^' :: rest =>
    (classRanges true false [] rest).map (·.map fun (ranges, after) => (.except ranges, after))
  | _ => (classRanges true false [] cs).map (·.map fun (ranges, after) => (.within ranges, after))

/-- How far a pattern has been read. -/
structure Reading where
  /-- The tokens of the sequence that is being read, last first. -/
  tokens : List Token := []
  /-- The groups that are open, innermost first: the tokens before the group and its finished
  branches, both last first. -/
  groups : List (List Token × List (List Token)) := []
  /-- Whether brackets stand for themselves. -/
  plainBrackets : Bool := false

namespace Reading

def push (r : Reading) (token : Token) : Reading :=
  { r with tokens := token :: r.tokens }

def openGroup (r : Reading) : Reading :=
  { r with tokens := [], groups := (r.tokens, []) :: r.groups }

/-- Starts the next branch of the innermost group; outside all groups a comma is a character. -/
def nextBranch (r : Reading) : Reading :=
  match r.groups with
  | [] => r.push (.char ',')
  | (before, branches) :: outer =>
    { r with tokens := [], groups := (before, r.tokens.reverse :: branches) :: outer }

def closeGroup (r : Reading) : Except PatternFault Reading :=
  match r.groups with
  | [] => .error .unopenedGroup
  | (before, branches) :: outer =>
    .ok { r with
      tokens := .choice (r.tokens.reverse :: branches).reverse :: before, groups := outer }

/-- Two stars as a whole component: they take the slash before them with them, and nothing is
gained by a second one after the start. -/
def pushComponents (r : Reading) (token : Token) : Reading :=
  match r.tokens with
  | .leading :: _ | .trailing :: _ => r
  | _ :: before => { r with tokens := token :: before }
  | [] => { r with tokens := [token] }

/-- Reads the stars at a star, given the character before it and the characters after it. Gives the
reading, the last character read and the rest. -/
def stars (r : Reading) (previous : Option Char) (rest : List Char) :
    Reading × Option Char × List Char :=
  match rest with
  | '*' :: after =>
    let two := (((r.push .run).push .run), some '*', after)
    if r.tokens.isEmpty then
      match after with
      | [] => (r.push .leading, some '*', [])
      | '/' :: more => (r.push .leading, some '/', more)
      | _ => two
    else if previous = some '/' ||
        (!r.groups.isEmpty && (previous = some ',' || previous = some '\x7b')) then
      match after with
      | [] => (r.pushComponents .trailing, some '*', [])
      | '/' :: more => (r.pushComponents .inner, some '/', more)
      | c :: _ =>
        if !r.groups.isEmpty && (c = ',' || c = '\x7d') then
          (r.pushComponents .trailing, some '*', after)
        else two
    else two
  | _ => (r.push .run, some '*', rest)

end Reading

/-- Reads a pattern from some point on; `previous` is the character before it. -/
def readPattern : Nat → Option Char → Reading → List Char → Except PatternFault (List Token)
  | 0, _, _, _ => .error .unclosedGroup
  | _ + 1, _, r, [] => if r.groups.isEmpty then .ok r.tokens.reverse else .error .unclosedGroup
  | fuel + 1, previous, r, c :: rest =>
    if c = '?' then readPattern fuel (some c) (r.push .any) rest
    else if c = '*' then
      let (read, last, after) := r.stars previous rest
      readPattern fuel last read after
    else if c = '[' && !r.plainBrackets then
      match readClass rest with
      | .error fault => .error fault
      | .ok (some (token, after)) => readPattern fuel (some ']') (r.push token) after
      | .ok none => readPattern fuel (some c) { r.push (.char c) with plainBrackets := true } rest
    else if c = '\x7b' then readPattern fuel (some c) r.openGroup rest
    else if c = '\x7d' then
      match r.closeGroup with
      | .error fault => .error fault
      | .ok closed => readPattern fuel (some c) closed rest
    else if c = ',' then readPattern fuel (some c) r.nextBranch rest
    else if c = '\\' then
      match rest with
      | [] => .error .danglingEscape
      | d :: after => readPattern fuel (some d) (r.push (.char d)) after
    else readPattern fuel (some c) (r.push (.char c)) rest

def parsePattern (cs : List Char) : Except PatternFault (List Token) :=
  readPattern (cs.length + 1) none {} cs

/-! ## Matching

A token is matched against the start of some bytes and gives every rest that it can leave. -/

def slash : UInt8 := 47

/-- All ends of some bytes, the bytes themselves included. -/
def allEnds : List UInt8 → List (List UInt8)
  | [] => [[]]
  | b :: rest => (b :: rest) :: allEnds rest

/-- The ends that leave out some first bytes, none of them a slash. -/
def endsWithinName : List UInt8 → List (List UInt8)
  | [] => [[]]
  | b :: rest => (b :: rest) :: if b = slash then [] else endsWithinName rest

/-- The ends that follow a slash. -/
def endsAfterSlash : List UInt8 → List (List UInt8)
  | [] => []
  | b :: rest => if b = slash then rest :: endsAfterSlash rest else endsAfterSlash rest

/-- The bytes after the given first ones, if they are the first. -/
def after? : List UInt8 → List UInt8 → Option (List UInt8)
  | [], bytes => some bytes
  | _ :: _, [] => none
  | a :: as, b :: bytes => if a = b then after? as bytes else none

/-- Whether a byte is one of the bytes of a range of characters. A range between characters of
several bytes holds the bytes of both ends, and those between the last of the first and the first
of the last. -/
def inByteRange (range : Char × Char) (b : UInt8) : Bool :=
  let low := String.utf8EncodeChar range.1
  let high := String.utf8EncodeChar range.2
  low.contains b || high.contains b ||
    match range.1 == range.2, low.getLast?, high.head? with
    | false, some first, some last => first ≤ b && b ≤ last
    | _, _, _ => false

mutual

/-- Whether a token stands for nothing at all. -/
def Token.isVoid : Token → Bool
  | .choice branches => branchesVoid branches
  | _ => false

def tokensVoid : List Token → Bool
  | [] => true
  | token :: rest => token.isVoid && tokensVoid rest

def branchesVoid : List (List Token) → Bool
  | [] => true
  | branch :: rest => tokensVoid branch && branchesVoid rest

end

mutual

/-- The rests that a token can leave. -/
def Token.rests : Token → List UInt8 → List (List UInt8)
  | .char c, bytes => (after? (String.utf8EncodeChar c) bytes).toList
  | .any, b :: rest => if b = slash then [] else [rest]
  | .run, bytes => endsWithinName bytes
  | .within ranges, b :: rest => if ranges.any (inByteRange · b) then [rest] else []
  | .except ranges, b :: rest => if ranges.any (inByteRange · b) then [] else [rest]
  | .leading, bytes => bytes :: endsAfterSlash bytes
  | .inner, b :: rest => if b = slash then rest :: endsAfterSlash rest else []
  | .trailing, b :: rest => if b = slash then allEnds rest else []
  | .choice branches, bytes =>
    if branchesVoid branches then [bytes] else branchesRests branches bytes
  | .any, [] | .within _, [] | .except _, [] | .inner, [] | .trailing, [] => []

/-- The rests that a sequence of tokens can leave, from any of some starts. -/
def tokensRests : List Token → List (List UInt8) → List (List UInt8)
  | [], starts => starts
  | token :: rest, starts => tokensRests rest (starts.flatMap token.rests).eraseDups

/-- The rests that the branches of a choice can leave. A branch that stands for nothing is no
choice. -/
def branchesRests : List (List Token) → List UInt8 → List (List UInt8)
  | [], _ => []
  | branch :: rest, bytes =>
    (if tokensVoid branch then [] else tokensRests branch [bytes]) ++ branchesRests rest bytes

end

/-- Whether a pattern matches a whole path. Two stars alone match every path. -/
def patternMatches (pattern : List Token) (bytes : List UInt8) : Bool :=
  match pattern with
  | [.leading] => true
  | _ => (tokensRests pattern [bytes]).any (·.isEmpty)

end MarkLine.Ignore
