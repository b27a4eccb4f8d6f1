import InboxAudit.Filter.Export.Source
import InboxAudit.Host.Basic
import InboxAudit.Settings.Basic

/-!
# Loading a filter export

Filters come from a file that was compiled before, or from the program that compiles them. Of a
program that fails the message tells how it ended and all that it wrote.
-/

namespace InboxAudit.Filter
set_option autoImplicit false

open Text (isBlankText strip ofUtf8)

/-- Where an export comes from. -/
inductive Loader where
  | file (path : String)
  | program (binary : String) (configDir : Option String)
  deriving Repr, DecidableEq

namespace Loader

/-- The loader unless settings choose another one. -/
def default : Loader := .program Settings.defaultBinary none

/-- The loader that settings choose; there is none where filters are not wanted. -/
def ofSettings (s : Settings.Filters) : Option Loader :=
  if s.enabled then
    match s.exportFile with
    | some path => some (.file path)
    | none => some (.program s.binary s.configDir)
  else none

/-- The arguments that make the program compile filters. -/
def arguments (configDir : Option String) : List String :=
  ["compile", "--format=json"] ++
    match configDir with
    | some dir => if isBlankText dir then [] else ["--config", dir]
    | none => []

/-- The names of the signals, by number. -/
def signalNames : List (Nat × String) :=
  [(1, "SIGHUP"), (2, "SIGINT"), (3, "SIGQUIT"), (4, "SIGILL"), (5, "SIGTRAP"), (6, "SIGABRT"),
   (7, "SIGBUS"), (8, "SIGFPE"), (9, "SIGKILL"), (10, "SIGUSR1"), (11, "SIGSEGV"), (12, "SIGUSR2"),
   (13, "SIGPIPE"), (14, "SIGALRM"), (15, "SIGTERM"), (16, "SIGSTKFLT"), (17, "SIGCHLD"),
   (18, "SIGCONT"), (19, "SIGSTOP"), (20, "SIGTSTP"), (21, "SIGTTIN"), (22, "SIGTTOU"),
   (23, "SIGURG"), (24, "SIGXCPU"), (25, "SIGXFSZ"), (26, "SIGVTALRM"), (27, "SIGPROF"),
   (28, "SIGWINCH"), (29, "SIGIO"), (30, "SIGPWR"), (31, "SIGSYS")]

/-- How a program ended, in words. -/
def ending : Host.Ending → String
  | .exit code => "exit status: " ++ toString code
  | .signal number =>
    "signal: " ++ toString number ++
      match signalNames.find? (·.1 = number) with
      | some (_, name) => " (" ++ name ++ ")"
      | none => ""

/-- The export that a program printed. -/
def ofResult (r : Host.ProgramResult) : Except AuditError Export :=
  if r.ending = .exit 0 then Export.parse r.output
  else
    let said := strip (ofUtf8 r.output ++ ofUtf8 r.errors).toList
    .error (.filters ("run gmailctl: " ++ ending r.ending ++ " (output: " ++ String.ofList said ++ ")"))

variable {m : Type → Type} [Monad m] [Host m]

/-- The export is loaded. -/
def load : Loader → m (Except AuditError Export)
  | .file path => do
    match ← Host.readFile path with
    | .error e => return .error (.filters ("read " ++ path ++ ": " ++ e.message))
    | .ok bytes => return Export.parse bytes
  | .program binary configDir => do
    let binary := if isBlankText binary then Settings.defaultBinary else binary
    match ← Host.runProgram binary (arguments configDir) with
    | .error e => return .error (.filters ("run gmailctl: " ++ e.message))
    | .ok result => return ofResult result

end Loader

end InboxAudit.Filter
