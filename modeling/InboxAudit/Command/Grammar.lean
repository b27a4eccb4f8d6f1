import InboxAudit.Command.Basic
import InboxAudit.Numbers.Width
import InboxAudit.Text.Digits

/-!
# The grammar of command lines

A command line is a level of options, the name of a command, and the options of that command. An
option has a long name and sometimes a letter; it is a switch, takes a value, or asks for help or
for the version.
-/

namespace InboxAudit.Command
set_option autoImplicit false

/-- Why a command line is not carried out as a command. -/
inductive Refusal where
  | help
  | version
  /-- A command line without options and without a command. -/
  | helpInsteadOfCommand
  | missingCommand
  | unknownCommand
  | unknownArgument
  /-- An option without its value, or a path that is empty. -/
  | missingValue
  /-- A value that is not of its kind. -/
  | invalidValue
  /-- An option that is given twice. -/
  | repeated
  /-- A switch with a value. -/
  | unwantedValue
  deriving Repr, DecidableEq

/-- The user asked for what the refusal shows. -/
def Refusal.isAnswer : Refusal → Bool
  | .help => true
  | .version => true
  | _ => false

/-- What the value of an option must be. -/
inductive ValueKind where
  | path
  | text
  /-- A number of 32 bits. -/
  | count32
  /-- A number of 64 bits, which may have no minus sign. -/
  | count64
  deriving Repr, DecidableEq

/-- What an option was given. -/
inductive Value where
  | on
  | text (s : String)
  | number (n : Nat)
  deriving Repr, DecidableEq

/-- The number that a value spells, below a limit. -/
def readCount (limit : Nat) (n : Option Int) : Except Refusal Value :=
  match n with
  | some n => if 0 ≤ n ∧ n < limit then .ok (.number n.toNat) else .error .invalidValue
  | none => .error .invalidValue

/-- A value of some kind. -/
def ValueKind.read (s : String) : ValueKind → Except Refusal Value
  | .path => if s = "" then .error .missingValue else .ok (.text s)
  | .text => .ok (.text s)
  | .count32 => readCount (Numbers.bound 32) (Text.integer? s.toList)
  | .count64 => readCount (Numbers.bound 64) ((Text.natural? s.toList).map Int.ofNat)

/-- What an option is for. -/
inductive Purpose where
  | flag
  | value (kind : ValueKind)
  | help
  | version
  deriving Repr, DecidableEq

/-- An option. -/
structure Opt where
  name : String
  letter : Option Char
  purpose : Purpose
  deriving Repr, DecidableEq

/-- A level of a command line: its options, and the commands that may follow. -/
structure Level where
  options : List Opt
  commands : List String
  deriving Repr, DecidableEq

/-- The option with a long name. -/
def Level.named? (level : Level) (name : String) : Option Opt :=
  level.options.find? (·.name = name)

/-- The option with a letter. -/
def Level.lettered? (level : Level) (letter : Char) : Option Opt :=
  level.options.find? (·.letter = some letter)

/-- The option that asks for help. -/
def helpOption : Opt := ⟨"help", some 'h', .help⟩

/-- The command that asks for help. -/
def helpCommand : String := "help"

/-- The names of the commands. -/
def names : List String := ["auth", "audit", "lint", "init-config"]

/-- The first level of a command line. -/
def firstLevel : Level :=
  ⟨[⟨"config", some 'c', .value .path⟩, ⟨"credentials", none, .value .path⟩,
      ⟨"token-cache", none, .value .path⟩, ⟨"verbose", some 'v', .flag⟩,
      helpOption, ⟨"version", some 'V', .version⟩],
    names ++ [helpCommand]⟩

/-- The options of a command. -/
def optionsOf (command : String) : List Opt :=
  match command with
  | "auth" => [⟨"force", none, .flag⟩]
  | "audit" => [⟨"days", none, .value .count32⟩, ⟨"top", none, .value .count64⟩,
      ⟨"json", none, .value .text⟩, ⟨"no-rules", none, .flag⟩]
  | "lint" => [⟨"days", none, .value .count32⟩, ⟨"fail-on", none, .value .text⟩]
  | "init-config" => [⟨"output", some 'o', .value .path⟩, ⟨"force", none, .flag⟩]
  | _ => []

/-- The level of a command line that follows a command. -/
def levelOf (command : String) : Level := ⟨optionsOf command ++ [helpOption], []⟩

/-- The values that the options of a level were given. -/
abbrev Given := List (String × Value)

namespace Given

/-- What an option was given. -/
def value? (given : Given) (name : String) : Option Value :=
  (given.find? (·.1 = name)).map (·.2)

/-- The option was given. -/
def has (given : Given) (name : String) : Bool := (given.value? name).isSome

/-- The text that an option was given. -/
def text? (given : Given) (name : String) : Option String :=
  match given.value? name with
  | some (.text s) => some s
  | _ => none

/-- The number that an option was given. -/
def number? (given : Given) (name : String) : Option Nat :=
  match given.value? name with
  | some (.number n) => some n
  | _ => none

end Given

/-- The command of a name with what its options were given. -/
def ofGiven? (name : String) (given : Given) : Option Command :=
  match name with
  | "auth" => some (.auth (given.has "force"))
  | "audit" =>
    some (.audit (given.number? "days") (given.number? "top") (given.text? "json")
      (given.has "no-rules"))
  | "lint" => some (.lint (given.number? "days") (given.text? "fail-on"))
  | "init-config" =>
    some (.initConfig ((given.text? "output").getD Invocation.defaultConfig) (given.has "force"))
  | _ => none

/-- The command with what the options of the first level were given. -/
def invocation (given : Given) (command : Command) : Invocation where
  config := (given.text? "config").getD Invocation.defaultConfig
  credentials := (given.text? "credentials").getD Invocation.defaultCredentials
  tokenCache := (given.text? "token-cache").getD Invocation.defaultTokenCache
  verbose := given.has "verbose"
  command := command

end InboxAudit.Command
