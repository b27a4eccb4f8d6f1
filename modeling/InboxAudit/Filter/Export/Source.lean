import InboxAudit.Audit.Error
import InboxAudit.Filter.Export.Basic
import InboxAudit.Json.Reader

/-!
# Reading a filter export

An export as bytes of a file or of a program's output. An export without filters and labels is
refused: it is the sign of a tool that did not find its configuration.
-/

namespace InboxAudit.Filter
set_option autoImplicit false

/-- The export that some bytes hold. -/
def Export.parse (bytes : List UInt8) : Except AuditError Export :=
  match (Json.readBytes bytes).bind Export.ofJson? with
  | none => .error (.filters "decode gmailctl output: not a filter export in JSON")
  | some e =>
    if e.isEmpty then .error (.filters "gmailctl returned no filters or labels") else .ok e

end InboxAudit.Filter
