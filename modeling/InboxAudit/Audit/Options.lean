import InboxAudit.Audit.Error
import InboxAudit.Mail.Message
import InboxAudit.Report.Window

/-!
# Audit options

How far an audit looks back, how long its rankings are, and what it fetches. An option left at
zero or empty stands for its default, and a page is never larger than the mailbox allows; only a
window of no length is refused.
-/

namespace InboxAudit.Audit
set_option autoImplicit false

/-- The options of one audit. -/
structure Options where
  window : Window
  topN : Nat
  pageSize : Nat
  headers : List String
  deriving Repr, DecidableEq

namespace Options

/-- The rows of a ranking unless the options say otherwise. -/
def defaultTopN : Nat := 20

/-- The largest page of a listing. -/
def maxPageSize : Nat := 500

/-- The options of an audit over so many days. -/
def ofDays (days : Nat) : Options := ⟨Window.ofDays days, defaultTopN, maxPageSize, []⟩

/-- The options of an audit for which none are given. -/
def default : Options := ofDays 60

/-- The options with every default put in. -/
def resolved (o : Options) : Except AuditError Options :=
  if o.window.isZero then .error (.config "window must be positive")
  else .ok {
    window := o.window
    topN := if o.topN = 0 then defaultTopN else o.topN
    pageSize := if o.pageSize = 0 ∨ o.pageSize > maxPageSize then maxPageSize else o.pageSize
    headers := if o.headers = [] then Mail.defaultHeaders else o.headers }

end Options

end InboxAudit.Audit
