import InboxAudit.Audit.Error
import InboxAudit.Report.Human
import InboxAudit.Text.Utf8

/-!
# Printing a report

A report goes to an output that takes a limited number of bytes. All that fits is written, and the
report is printed when all of it fits.
-/

namespace InboxAudit.Report
set_option autoImplicit false

/-- The bytes that an output of the given capacity takes of the report's text, and whether the
report was printed. -/
def printInto (capacity : Nat) (r : Report) : List UInt8 × Except AuditError Unit :=
  let bytes := Text.toUtf8 r.human
  (bytes.take capacity,
    if bytes.length ≤ capacity then .ok ()
    else .error (.output "write human report: failed to write whole buffer"))

end InboxAudit.Report
