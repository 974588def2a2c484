/-!
# Log events

What the program says about its work while it goes on. Every step that logs has a function beside it
that lists its events, so that what a step does can be stated without its log.
-/

namespace MarkLine

inductive Level where
  | debug
  | info
  | warn
  deriving DecidableEq, Repr

structure Event where
  level : Level
  message : String
  deriving DecidableEq, Repr

def Level.name : Level → String
  | .debug => "DEBUG"
  | .info => "INFO"
  | .warn => "WARN"

def Event.line (e : Event) : String := e.level.name ++ " " ++ e.message

def debug (message : String) : Event := ⟨.debug, message⟩

def info (message : String) : Event := ⟨.info, message⟩

def warn (message : String) : Event := ⟨.warn, message⟩

end MarkLine
