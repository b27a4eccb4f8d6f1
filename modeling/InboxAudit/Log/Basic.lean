/-!
# Log lines

A log line has a level, the part of the program that it comes from, a text, and fields with further
values. Levels are ordered by weight: an error matters most, a trace least.
-/

namespace InboxAudit.Log
set_option autoImplicit false

/-- How much a log line matters. -/
inductive Level where
  | error
  | warn
  | info
  | debug
  | trace
  deriving Repr, DecidableEq

/-- All levels, the one that matters most first. -/
def Level.all : List Level := [.error, .warn, .info, .debug, .trace]

/-- The place of a level, from one for errors to five for traces. -/
def Level.rank : Level → Nat
  | .error => 1
  | .warn => 2
  | .info => 3
  | .debug => 4
  | .trace => 5

/-- The name of a level. -/
def Level.name : Level → String
  | .error => "ERROR"
  | .warn => "WARN"
  | .info => "INFO"
  | .debug => "DEBUG"
  | .trace => "TRACE"

/-- A line of the log. -/
structure Line where
  level : Level
  source : String
  text : String
  fields : List (String × String)
  deriving Repr, DecidableEq

/-- The line has a field of that name; the text of a line is its field `message`. -/
def Line.hasField (line : Line) (name : String) : Bool :=
  name = "message" || line.fields.any (·.1 = name)

/-- The line as it is shown, fields behind the text. -/
def Line.render (line : Line) : String :=
  line.level.name ++ " " ++ line.text ++
    String.join (line.fields.map fun (name, value) => " " ++ name ++ "=" ++ value) ++ "\n"

/-- The parts of the program that write log lines. -/
inductive Source where
  | program
  | commands
  | settings
  | access
  deriving Repr, DecidableEq

/-- The name of a part, as it is used to choose log lines. -/
def Source.name : Source → String
  | .program => "gmail_audit"
  | .commands => "gmail_audit::cli"
  | .settings => "gmail_audit::config"
  | .access => "gmail_audit::auth"

end InboxAudit.Log
