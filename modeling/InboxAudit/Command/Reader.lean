import InboxAudit.Command.Grammar
import InboxAudit.Text.Blank

/-!
# Reading command lines

A level is read word by word. Two dashes introduce a long name, with its value after an equals sign
or in the next word; one dash introduces letters, of which the first that takes a value gets the
rest of the word, or else the next one. Two dashes alone end the options, and no word may follow
them here. An option that waits for its value is decided upon when the next one comes or the
level ends: values are checked then, and so a later word may be refused before an earlier value.
-/

namespace InboxAudit.Command
set_option autoImplicit false

open Text (splitFirst?)

/-- What a level was given so far, and the last option with its value where that is still to be
decided upon. -/
structure Reading where
  given : Given
  pending : Option (Opt × Option String)
  deriving Repr, DecidableEq

namespace Reading

/-- Nothing read so far. -/
def empty : Reading := ⟨[], none⟩

/-- An option waits for its value. -/
def isWaiting (r : Reading) : Bool :=
  match r.pending with
  | some (_, none) => true
  | _ => false

/-- The value of an option. -/
def valueOf (o : Opt) (value : Option String) : Except Refusal Value :=
  match o.purpose, value with
  | .help, _ => .error .help
  | .version, _ => .error .version
  | .flag, _ => .ok .on
  | .value _, none => .error .missingValue
  | .value kind, some s => kind.read s

/-- An option is decided upon: a value must be there, and the option must be new, before the value
is looked at. -/
def conclude (r : Reading) (o : Opt) (value : Option String) : Except Refusal Reading :=
  match o.purpose, value with
  | .value _, none => .error .missingValue
  | _, _ =>
    if r.given.has o.name then .error .repeated
    else do return { r with given := r.given ++ [(o.name, ← valueOf o value)] }

/-- The option that is pending is decided upon. -/
def settle (r : Reading) : Except Refusal Reading :=
  match r.pending with
  | none => .ok r
  | some (o, value) => conclude { r with pending := none } o value

/-- An option comes with all that belongs to it. -/
def take (r : Reading) (o : Opt) (value : Option String) : Except Refusal Reading := do
  (← r.settle).conclude o value

/-- An option comes whose value is the next word. -/
def await (r : Reading) (o : Opt) : Except Refusal Reading := do
  return { (← r.settle) with pending := some (o, none) }

/-- A word is the value of the option that waits for it. -/
def supply (r : Reading) (word : String) : Reading :=
  { r with pending := r.pending.map fun p => (p.1, some word) }

/-- A long option with the value that is attached to it. -/
def long (level : Level) (r : Reading) (name : String) (value : Option String) :
    Except Refusal Reading :=
  match level.named? name with
  | none => .error .unknownArgument
  | some o =>
    match o.purpose, value with
    | .value _, none => r.await o
    | .value _, some s => r.take o (some s)
    | _, some _ => .error .unwantedValue
    | _, none => r.take o none

/-- Options by their letters. -/
def letters (level : Level) (r : Reading) : List Char → Except Refusal Reading
  | [] => .ok r
  | c :: rest =>
    match level.lettered? c with
    | none => .error .unknownArgument
    | some o =>
      match o.purpose, rest with
      | .value _, [] => r.await o
      | .value _, '=' :: value => r.take o (some (String.ofList value))
      | .value _, value => r.take o (some (String.ofList value))
      | _, rest => do letters level (← r.take o none) rest

end Reading

/-- How a level ends: with the name of a command and the words after it, or with the line. -/
abbrev Ending := Option (String × List String)

/-- Why a word that is no option has no place in a level. -/
def strayWord (level : Level) : Refusal :=
  if level.commands = [] then .unknownArgument else .unknownCommand

/-- The words after the end of the options: there may be none, commands included. -/
def readRest (level : Level) : List String → Except Refusal Ending
  | [] => .ok none
  | word :: _ =>
    .error (if level.commands.contains word then .unknownArgument else strayWord level)

/-- The words of a level. -/
def readWords (level : Level) (r : Reading) : List String → Except Refusal (Reading × Ending)
  | [] => .ok (r, none)
  | word :: words =>
    if !r.isWaiting && level.commands.contains word then .ok (r, some (word, words))
    else
      match word.toList with
      | ['-', '-'] => do return (r, ← readRest level words)
      | '-' :: '-' :: rest => do
        let r ← match splitFirst? (· = '=') rest with
          | some (name, value) => r.long level (String.ofList name) (some (String.ofList value))
          | none => r.long level (String.ofList rest) none
        readWords level r words
      | '-' :: c :: rest => do readWords level (← r.letters level (c :: rest)) words
      | _ =>
        if r.isWaiting then readWords level (r.supply word) words
        else .error (strayWord level)

/-- The words after the command that asks for help: the name of a command, or nothing. -/
def readHelp (words : List String) : Refusal :=
  match words with
  | [] => .help
  | [word] => if firstLevel.commands.contains word then .help else .unknownCommand
  | _ => .unknownCommand

/-- A command with its options. -/
def readCommand (name : String) (words : List String) : Except Refusal Command := do
  let (r, _) ← readWords (levelOf name) .empty words
  match ofGiven? name (← r.settle).given with
  | some command => return command
  | none => .error .unknownCommand

/-- The command line without the name of the program. -/
def read (words : List String) : Except Refusal Invocation := do
  let (r, ending) ← readWords firstLevel .empty words
  match ending with
  | some (name, words) =>
    if name = helpCommand then .error (readHelp words)
    else
      let command ← readCommand name words
      return invocation (← r.settle).given command
  | none =>
    let r ← r.settle
    if r.given = [] then .error .helpInsteadOfCommand else .error .missingCommand

end InboxAudit.Command
