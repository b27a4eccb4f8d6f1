import InboxAudit.Host.Basic
import InboxAudit.Report.Basic
import InboxAudit.Report.Destination
import InboxAudit.Text.Utf8

/-!
# Report files

A report is written as JSON to a file below the working directory. A new file is readable for its
owner alone.
-/

namespace InboxAudit.Report
set_option autoImplicit false

open Text (toUtf8)

variable {m : Type → Type} [Monad m] [Host m]

/-- The bytes of a report file. -/
def encode (r : Report) : List UInt8 := toUtf8 (String.ofList r.write)

/-- The permission bits of a new report file. -/
def fileMode : Nat := 0o600

/-- A report is written to a file; the result is the file's path behind that of the working directory. -/
def save (r : Report) (path : String) : m (Except AuditError String) := do
  match destination path with
  | .error fault => return .error (.output fault.message)
  | .ok names =>
    match ← Host.workingDirectory with
    | .error e => return .error (.output ("determine working directory: " ++ e.message))
    | .ok directory =>
      let target := Files.Path.join directory (Files.Path.ofParts names)
      match ← Host.writeFile target fileMode r.encode with
      | .ok () => return .ok target
      | .error e => return .error (.output ("create " ++ target ++ ": " ++ e.message))

end InboxAudit.Report
