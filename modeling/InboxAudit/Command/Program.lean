import InboxAudit.Command.Failure
import InboxAudit.Command.Reader
import InboxAudit.Command.Run
import InboxAudit.Command.Usage

/-!
# The program

From the words of a command line to an exit code: 0 for success, 1 for a failure or a broken
policy, 2 for a command line that is not understood. What failed is told apart from the output.
-/

namespace InboxAudit.Command
set_option autoImplicit false

variable {m : Type → Type} [Monad m] [Host m]

/-- How the program ends: the exit code, and what is said of a failure. -/
structure Exit where
  code : Nat
  complaint : String
  deriving Repr, DecidableEq

/-- The program ends without a complaint. -/
def Exit.quiet (code : Nat) : Exit := ⟨code, ""⟩

/-- A command line that is no command is answered. -/
def refuse (refusal : Refusal) : m Exit := do
  match refusal with
  | .help =>
    Host.print usage
    return .quiet 0
  | .version =>
    Host.print versionText
    return .quiet 0
  | refusal => return ⟨2, "error: " ++ refusal.message ++ "\n\n" ++ usage⟩

/-- The outcome of a command is told. -/
def tell (i : Invocation) : Outcome → m Exit
  | .access address => do
    Host.print ("Authenticated as " ++ address ++ "\n")
    Host.print ("Token cached at " ++ i.tokenCache ++ "\n")
    return .quiet 0
  | .report _ => return .quiet 0
  | .checked isBroken => return .quiet (if isBroken then 1 else 0)
  | .settings path => do
    Host.print ("Wrote default configuration to " ++ path ++ "\n")
    return .quiet 0

/-- A failure is told. -/
def fail (f : Failure) : Exit := ⟨1, f.report⟩

/-- What is in the way of a command: a file that it may not write over. -/
def obstacle? (i : Invocation) : m (Option Failure) := do
  match i.command with
  | .initConfig output false =>
    return if ← Host.isPresent output then some (.exists output) else none
  | _ => return none

/-- A command is carried out, and told how it ended. -/
def execute (network : Access.Token → Http.Network m) (i : Invocation) : m Exit := do
  match ← obstacle? i with
  | some failure => return fail failure
  | none =>
    match i.command with
    | .auth _ => Host.note .info .program "Authenticating with Gmail API..."
    | _ => pure ()
    match ← run network i with
    | .error e => return fail (.error e)
    | .ok outcome => tell i outcome

/-- The program on the words of a command line. -/
def program (network : Access.Token → Http.Network m) (words : List String) : m Exit :=
  match read words with
  | .error refusal => refuse refusal
  | .ok i => execute network i

end InboxAudit.Command
