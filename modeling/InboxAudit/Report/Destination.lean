import InboxAudit.Audit.Error
import InboxAudit.Files.Path

/-!
# Report destinations

Where a report may be written: under a path that names a file below the working directory. The
path is walked name by name, two dots going back to where the walk came from; a walk that goes
back further than it came is refused.
-/

namespace InboxAudit.Report
set_option autoImplicit false

open Text (strip)

/-- Why a path is no destination. -/
inductive DestinationFault where
  | empty
  | absolute (path : String)
  | escapes (path : String)
  | nameless (path : String)
  deriving Repr, DecidableEq

/-- The fault in words. -/
def DestinationFault.message : DestinationFault → String
  | .empty => "path must not be empty"
  | .absolute path => "output path must be relative, got " ++ path
  | .escapes path => "output path " ++ path ++ " escapes working directory"
  | .nameless path => "output path " ++ path ++ " does not name a file"

/-- One step of a walk; `walked` holds the names so far, the last one first. -/
def walkStep (walked : List String) (name : String) : Option (List String) :=
  if name = "" ∨ name = "." then some walked
  else if name = ".." then
    match walked with
    | [] => none
    | _ :: before => some before
  else some (name :: walked)

/-- The names of a path without dots, the last one first. -/
def walk (names : List String) : Option (List String) := names.foldlM walkStep []

/-- The names that lead to the file that a text names below the working directory. -/
def destination (path : String) : Except DestinationFault (List String) :=
  let path := String.ofList (strip path.toList)
  if path = "" then .error .empty
  else if Files.Path.isAbsolute path then .error (.absolute path)
  else
    match walk (Files.Path.parts path) with
    | none => .error (.escapes path)
    | some [] => .error (.nameless path)
    | some walked => .ok walked.reverse

end InboxAudit.Report
