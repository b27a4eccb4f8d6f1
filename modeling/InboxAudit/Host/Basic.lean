import InboxAudit.Files.Error
import InboxAudit.Files.Path
import InboxAudit.Log.Basic
import InboxAudit.Time.Instant

/-!
# Hosts

What the program needs of the machine that it runs on: files, the environment, other programs, a
clock, an output and a log. A host is a monad with these operations, so that one definition runs on a real machine and
on a workspace that is a value.
-/

namespace InboxAudit
set_option autoImplicit false

open InboxAudit.Files (FileError Path.parent?)

/-- What there is under a path. -/
inductive Host.Kind where
  | directory
  | file
  deriving Repr, DecidableEq

/-- How a program ended. -/
inductive Host.Ending where
  | exit (code : Nat)
  | signal (number : Nat)
  deriving Repr, DecidableEq

/-- What a program left behind. -/
structure Host.ProgramResult where
  ending : Host.Ending
  output : List UInt8
  errors : List UInt8
  deriving Repr, DecidableEq

/-- The operations of a host. A written file takes the permission bits only where it is new. The working
directory is an absolute path, unless the directory has gone. -/
class Host (m : Type → Type) where
  kind : (path : String) → m (Except FileError Host.Kind)
  readFile : (path : String) → m (Except FileError (List UInt8))
  writeFile : (path : String) → (mode : Nat) → List UInt8 → m (Except FileError Unit)
  makeDirectory : (path : String) → m (Except FileError Unit)
  removeFile : (path : String) → m (Except FileError Unit)
  setMode : (path : String) → (mode : Nat) → m (Except FileError Unit)
  workingDirectory : m (Except FileError String)
  environment : (name : String) → m (Option String)
  runProgram : (name : String) → (arguments : List String) → m (Except FileError Host.ProgramResult)
  now : m Time.Instant
  /-- To wait so many seconds. -/
  pause : Rat → m Unit
  /-- To write to the output. -/
  print : String → m Unit
  log : Log.Line → m Unit

namespace Host

variable {m : Type → Type} [Monad m] [Host m]

/-- A line is added to the log. -/
def note (level : Log.Level) (source : Log.Source) (text : String)
    (fields : List (String × String) := []) : m Unit :=
  log ⟨level, source.name, text, fields⟩

/-- There is something under the path. -/
def isPresent (path : String) : m Bool := return (← kind path).isOk

/-- There is a directory under the path. -/
def isDirectory (path : String) : m Bool := do
  match ← kind path with
  | .ok .directory => return true
  | _ => return false

/-- A directory is made, which may be there already. -/
def ensureDirectory (path : String) : m (Except FileError Unit) := do
  match ← makeDirectory path with
  | .ok () => return .ok ()
  | .error e => if ← isDirectory path then return .ok () else return .error e

/-- A directory and the directories above it are made; `steps` bounds how many there are. -/
def makeDirectoriesFrom : (steps : Nat) → String → m (Except FileError Unit)
  | 0, path => makeDirectory path
  | steps + 1, path => do
    match ← makeDirectory path with
    | .ok () => return .ok ()
    | .error .notFound =>
      match Path.parent? path with
      | none => return .error (.other "failed to create whole tree")
      | some "" => ensureDirectory path
      | some parent =>
        match ← makeDirectoriesFrom steps parent with
        | .ok () => ensureDirectory path
        | .error e => return .error e
    | .error e => if ← isDirectory path then return .ok () else return .error e

/-- A directory and the directories above it are made. -/
def makeDirectories (path : String) : m (Except FileError Unit) :=
  if path = "" then return .ok () else makeDirectoriesFrom path.length path

/-- The directory that a path is in is made with all above it, where the path names one. -/
def makeParent (path : String) : m (Except (String × FileError) Unit) := do
  match Path.parent? path with
  | none => return .ok ()
  | some "" => return .ok ()
  | some parent =>
    match ← makeDirectories parent with
    | .ok () => return .ok ()
    | .error e => return .error (parent, e)

end Host

end InboxAudit
