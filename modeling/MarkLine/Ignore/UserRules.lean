import MarkLine.Ignore.Rule

/-!
# The ignore file of the user

A user may have an ignore file that counts everywhere. The entry `excludesFile` of git's
configuration names it; there are two configuration files, of which the one in the home directory
comes first. Without an entry the file lies in the directory of the user's configurations.

The entry is looked for without a reading of the whole configuration: it is a line of its own, its
key in letters of either case, its value without blanks and maybe in quotes.
-/

namespace MarkLine.Ignore

/-! ## The entry -/

def isBlankByte (b : UInt8) : Bool :=
  b = 32 || (9 ≤ b && b ≤ 13)

def dropBlanks (bytes : List UInt8) : List UInt8 :=
  bytes.dropWhile isBlankByte

def blankToEnd : List UInt8 → Bool
  | [] => true
  | b :: rest => b = 10 || (isBlankByte b && blankToEnd rest)

/-- Whether a value may end here: only blanks, and one quote among them at most, are left of its
line. -/
def endsValue : List UInt8 → Bool
  | [] => true
  | b :: rest =>
    blankToEnd (b :: rest) || (b = 34 && blankToEnd rest) || (isBlankByte b && endsValue rest)

/-- The shortest value at the start of some bytes. -/
def value? : List UInt8 → Option (List UInt8)
  | [] => none
  | b :: rest =>
    if isBlankByte b then none
    else if endsValue rest then some [b]
    else (value? rest).map (b :: ·)

/-- The bytes after a key, which is given in small letters. -/
def afterKey? (key : String) (bytes : List UInt8) : Option (List UInt8) :=
  let start := bytes.take key.length
  let small := start.map fun b => if 65 ≤ b && b ≤ 90 then b + 32 else b
  if small = key.toUTF8.data.toList then some (bytes.drop key.length) else none

/-- The value of the entry, if some bytes start with it. A quote before the value belongs to it only
if there is no value without it. -/
def entry? (bytes : List UInt8) : Option (List UInt8) :=
  match (afterKey? "excludesfile" (dropBlanks bytes)).map dropBlanks with
  | some (61 :: rest) =>
    let rest := dropBlanks rest
    match rest with
    | 34 :: quoted => value? (dropBlanks quoted) <|> value? rest
    | _ => value? rest
  | _ => none

/-- The value of the first entry in some bytes. An entry starts a line. -/
def firstEntry (startsLine : Bool) : List UInt8 → Option (List UInt8)
  | [] => none
  | b :: rest =>
    (if startsLine then entry? (b :: rest) else none) <|> firstEntry (b = 10) rest

/-! ## The file -/

/-- The directory of the configurations of the user. -/
def userConfigs (w : World) : Option String :=
  (w.userConfigDir.filter (· ≠ "")) <|> w.home.map (Path.join · ".config")

/-- The configuration files of git, the one that comes first in front. -/
def gitConfigs (w : World) : List String :=
  (w.home.map (Path.join · ".gitconfig")).toList ++
    ((userConfigs w).map (Path.join · "git/config")).toList

/-- The path that an entry names; a tilde stands for the home directory. -/
def namedPath (w : World) (value : List UInt8) : Option String :=
  (String.fromUTF8? ⟨value.toArray⟩).map fun text =>
    match w.home with
    | some home =>
      String.ofList (text.toList.flatMap fun c => if c = '~' then home.toList else [c])
    | none => text

/-- The path of an ignore file that a configuration file names. -/
def namedIn (w : World) (config : String) : Option String :=
  match w.find? config with
  | some (.file bytes) => (firstEntry true bytes.data.toList).bind (namedPath w)
  | _ => none

def userFile (w : World) : Option String :=
  (gitConfigs w).findSome? (namedIn w) <|> (userConfigs w).map (Path.join · "git/ignore")

/-- The rules of the user, which speak about the working directory. -/
def userRules (w : World) : RuleFile :=
  match userFile w with
  | some path => .load w (Path.ofNames w.workingDir) path
  | none => {}

end MarkLine.Ignore
