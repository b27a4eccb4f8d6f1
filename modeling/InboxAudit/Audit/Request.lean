import InboxAudit.Audit.Error
import InboxAudit.Filter.Export.Basic
import InboxAudit.Mail.LabelCatalog

/-!
# What an audit asks for

A running audit asks its surroundings for one thing at a time: leave to make a call, the labels, a
page of the listing, the metadata of a message, the filters. A request is answered, fails, or is
given up because the audit was cancelled. `settle` says what each ending means: a failed call to
the mailbox is reported with the name of the operation, a limiter that was cancelled counts as
the cancellation of what it held up, and everything else is reported as it is.
-/

namespace InboxAudit.Audit
set_option autoImplicit false

open InboxAudit.Mail (LabelCatalog ListPage MailboxError Message MessageId)

/-- One request of a running audit. -/
inductive Request where
  | labels
  /-- Leave for the next call, by the name under which it is held up. -/
  | leave (operation : String)
  | page (query token : String) (size : Nat)
  | metadata (id : MessageId) (headers : List String)
  | filters
  deriving Repr, DecidableEq

namespace Request

/-- What answers a request. -/
abbrev Answer : Request → Type
  | .labels => LabelCatalog
  | .leave _ => Unit
  | .page _ _ _ => ListPage
  | .metadata _ _ => Message
  | .filters => Filter.Export

/-- Why a request fails. -/
abbrev Failure : Request → Type
  | .leave _ => AuditError
  | .filters => AuditError
  | _ => MailboxError

/-- The name under which a request is reported. -/
def operation : Request → String
  | .labels => "list labels"
  | .leave operation => operation
  | .page _ _ _ => "list messages"
  | .metadata id _ => "get metadata " ++ id
  | .filters => "load gmailctl filters"

/-- The error of an audit whose request failed. -/
def error : (r : Request) → r.Failure → AuditError
  | .labels, e => .fetch (operation .labels) e
  | .leave operation, .cancelled _ => .cancelled operation
  | .leave _, e => e
  | .page query token size, e => .fetch (operation (.page query token size)) e
  | .metadata id headers, e => .fetch (operation (.metadata id headers)) e
  | .filters, e => e

end Request

/-- How a request ends. -/
inductive Reply (r : Request) where
  | answered (answer : r.Answer)
  | failed (cause : r.Failure)
  | cancelled

/-- The answer of a request, or the error that ends the audit. -/
def Reply.settle {r : Request} : Reply r → Except AuditError r.Answer
  | .answered answer => .ok answer
  | .failed cause => .error (r.error cause)
  | .cancelled => .error (.cancelled r.operation)

end InboxAudit.Audit
