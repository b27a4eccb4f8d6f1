import InboxAudit.Mail.Error

/-!
# Audit errors

Why an audit ended without a report: unusable options, a failed call to the mailbox, an unusable
filter export, a report that could not be written, or a cancelled run.
-/

namespace InboxAudit
set_option autoImplicit false

/-- Why an audit ended without a report. -/
inductive AuditError where
  | config (text : String)
  | fetch (operation : String) (source : Mail.MailboxError)
  | filters (text : String)
  | output (text : String)
  | cancelled (operation : String)
  deriving Repr, DecidableEq

/-- The error in words. -/
def AuditError.message : AuditError → String
  | .config text => "Configuration error: " ++ text
  | .fetch operation source => operation ++ ": " ++ source.message
  | .filters text => "Export error: " ++ text
  | .output text => "Output error: " ++ text
  | .cancelled operation => "Operation cancelled: " ++ operation

end InboxAudit
