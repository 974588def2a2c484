import MarkLine.CommandLine.Help

/-!
# Reading the command line

Arguments are read one after the other. An option with a value takes the next argument for it,
unless that looks like an option, and what was read last is checked only when the next option or
argument of the command comes: so of two faults the one that is noticed first is reported, which
need not be the one that stands first. After two dashes no argument is an option.
-/

namespace MarkLine.CommandLine

/-- What a command does. -/
inductive Command where
  | compile (file : String) (format : Format)
  | check (path : String) (format : Format)
  | init (force : Bool)
  deriving DecidableEq, Repr

/-- What the command line asks for. -/
structure Invocation where
  verbose : Bool
  config : Option String
  command : Command
  deriving DecidableEq, Repr

/-- Why there is nothing to run. -/
inductive Stop where
  /-- A text was asked for. -/
  | print (text : String)
  /-- There is nothing on the command line to go by. -/
  | empty
  /-- The command line is wrong. -/
  | fault (fault : UsageFault)
  deriving DecidableEq, Repr

/-- What has been given in one scope. -/
structure Given where
  verbose : Bool := false
  force : Bool := false
  config : Option String := none
  format : Option Format := none
  argument : Option String := none
  deriving DecidableEq, Repr

/-- What was read last and is still to be checked. -/
inductive Pending where
  | setting (s : Setting) (value : Option String)
  | argument (value : String)
  deriving DecidableEq, Repr

/-- How far the command line has been read. -/
structure Progress where
  scope : Scope := none
  /-- What was given before the name of the command. -/
  outer : Given := {}
  /-- What was given in the scope. -/
  given : Given := {}
  pending : Option Pending := none
  /-- Whether options are over. -/
  optionsOver : Bool := false
  /-- Whether the argument of the command has been read. -/
  argumentRead : Bool := false
  deriving DecidableEq, Repr

def Given.set (g : Given) (s : Setting) (value : String) : Except Stop Given :=
  match s with
  | .config =>
    if g.config.isSome then .error (.fault (.repeated s.shown))
    else if value = "" then .error (.fault (.missingValue s.shown))
    else .ok { g with config := some value }
  | .format =>
    if g.format.isSome then .error (.fault (.repeated s.shown))
    else if value = "" then .error (.fault (.missingValue s.shown))
    else match Format.ofName? value with
      | some format => .ok { g with format := some format }
      | none => .error (.fault (.invalidFormat value))

namespace Progress

/-- Checks what was read last. -/
def settle (p : Progress) : Except Stop Progress :=
  match p.pending with
  | none => .ok p
  | some (.setting s none) => .error (.fault (.missingValue s.shown))
  | some (.setting s (some value)) =>
    (p.given.set s value).map fun given => { p with given, pending := none }
  | some (.argument value) =>
    if value = "" then .error (.fault (.missingValue ((argument? p.scope).getD "")))
    else .ok { p with given := { p.given with argument := some value }, pending := none }

def switch (p : Progress) (s : Switch) : Except Stop Progress :=
  match p.settle with
  | .error stop => .error stop
  | .ok p =>
    match s with
    | .help => .error (.print (helpFor true p.scope))
    | .shortHelp => .error (.print (helpFor false p.scope))
    | .version => .error (.print version)
    | .verbose =>
      if p.given.verbose then .error (.fault (.repeated s.shown))
      else .ok { p with given := { p.given with verbose := true } }
    | .force =>
      if p.given.force then .error (.fault (.repeated s.shown))
      else .ok { p with given := { p.given with force := true } }

/-- A setting with the value that is attached to it, if one is. -/
def setting (p : Progress) (s : Setting) (value : Option String) : Except Stop Progress :=
  match p.settle with
  | .error stop => .error stop
  | .ok p =>
    match value with
    | some value => (p.given.set s value).map fun given => { p with given }
    | none => .ok { p with pending := some (.setting s none) }

/-- An option that is spelled with a word. -/
def long (p : Progress) (name : String) (value : Option String) : Except Stop Progress :=
  match longOption? p.scope name, value with
  | none, _ => .error (.fault (.unknownArgument ("--" ++ name)))
  | some (.setting s), _ => p.setting s value
  | some (.switch s), none => p.switch s
  | some (.switch s), some value => .error (.fault (.needlessValue s.shown value))

/-- Options that are spelled with one letter each; what follows a setting is its value. -/
def short : List Char → Progress → Except Stop Progress
  | [], p => .ok p
  | c :: rest, p =>
    match shortOption? p.scope c with
    | none => .error (.fault (.unknownArgument ("-" ++ String.singleton c)))
    | some (.switch s) =>
      match p.switch s with
      | .error stop => .error stop
      | .ok next => short rest next
    | some (.setting s) =>
      p.setting s <|
        match rest with
        | [] => none
        | '=' :: value => some (String.ofList value)
        | value => some (String.ofList value)

/-- An argument that is no option. -/
def plain (p : Progress) (arg : String) : Except Stop Progress :=
  if (argument? p.scope).isSome && !p.argumentRead then
    p.settle.map fun p => { p with pending := some (.argument arg), argumentRead := true }
  else
    .error <| .fault <|
      if p.scope.isNone && !(p.optionsOver && ((CommandName.ofText? arg).isSome || arg = "help"))
      then .unknownCommand arg
      else .unknownArgument arg

/-- An argument that is no option, or the value of the setting that was read last. -/
def plainOrValue (p : Progress) (arg : String) : Except Stop Progress :=
  match p.pending with
  | some (.setting s none) => .ok { p with pending := some (.setting s (some arg)) }
  | _ => p.plain arg

/-- Whether the next argument can only be a value or an option. -/
def awaitsValue (p : Progress) : Bool :=
  match p.pending with
  | some (.setting _ none) => true
  | _ => false

/-- The next argument, in the scope of the program or of a command. -/
def step (p : Progress) (arg : String) : Except Stop Progress :=
  if p.optionsOver then p.plain arg
  else match p.scope, CommandName.ofText? arg, p.awaitsValue with
    | none, some name, false =>
      p.settle.map fun p => { scope := some name, outer := p.given : Progress }
    | _, _, _ =>
      match arg.toList with
      | ['-', '-'] => .ok { p with optionsOver := true }
      | '-' :: '-' :: rest =>
        let name := rest.takeWhile (· != '=')
        p.long (String.ofList name)
          (if name.length < rest.length then some (String.ofList (rest.drop (name.length + 1)))
           else none)
      | '-' :: c :: rest => short (c :: rest) p
      | _ => p.plainOrValue arg

end Progress

/-- The help that the arguments after the command `help` ask for. -/
def helpText : List String → Except Stop String
  | [] => .ok programHelp
  | ["help"] => .ok helpHelp
  | name :: rest =>
    match CommandName.ofText? name with
    | none => .error (.fault (.unknownCommand (if name = "help" then rest.headD name else name)))
    | some command =>
      match rest with
      | [] => .ok (commandHelp true command)
      | next :: _ => .error (.fault (.unknownCommand next))

def readArguments : Progress → List String → Except Stop Progress
  | p, [] => .ok p
  | p, arg :: rest =>
    if arg = "help" && p.scope.isNone && !p.optionsOver && !p.awaitsValue then
      match helpText rest with
      | .ok text => .error (.print text)
      | .error stop => .error stop
    else match p.step arg with
      | .error stop => .error stop
      | .ok next => readArguments next rest

/-- What the arguments ask for once all are read. -/
def Progress.finish (p : Progress) : Except Stop Invocation :=
  match p.settle with
  | .error stop => .error stop
  | .ok p =>
    let invocation := fun command : Command =>
      { verbose := p.outer.verbose || p.given.verbose
        config := p.given.config.or p.outer.config
        command : Invocation }
    match p.scope with
    | none => .error (if p.given = {} then .empty else .fault .noCommand)
    | some .compile =>
      match p.given.argument with
      | some file => .ok (invocation (.compile file (p.given.format.getD .text)))
      | none => .error (.fault .missingFile)
    | some .check =>
      .ok (invocation (.check (p.given.argument.getD ".") (p.given.format.getD .text)))
    | some .init => .ok (invocation (.init p.given.force))

/-- Reads a command line. -/
def parse (args : List String) : Except Stop Invocation :=
  match readArguments {} args with
  | .error stop => .error stop
  | .ok p => p.finish

end MarkLine.CommandLine
