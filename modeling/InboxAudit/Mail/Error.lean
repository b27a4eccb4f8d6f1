/-!
# Mailbox errors

Why a call to the mailbox failed. Errors that may pass by themselves are transient: too many
calls, trouble on the network, trouble on the server.
-/

namespace InboxAudit.Mail
set_option autoImplicit false

/-- Why a call to the mailbox failed. -/
inductive MailboxError where
  | api (text : String)
  | auth (text : String)
  | rateLimited (retryAfter : Nat)
  | network (text : String)
  | server (status : Nat) (text : String)
  | notFound (text : String)
  | badRequest (text : String)
  | forbidden (text : String)
  | invalidMessage (text : String)
  | label (text : String)
  | io (text : String)
  deriving Repr, DecidableEq

namespace MailboxError

/-- The error in words. -/
def message : MailboxError → String
  | .api text => "Gmail API error: " ++ text
  | .auth text => "Authentication failed: " ++ text
  | .rateLimited retryAfter => "Rate limit exceeded, retry after " ++ toString retryAfter ++ " seconds"
  | .network text => "Network error: " ++ text
  | .server status text => "Server error (HTTP " ++ toString status ++ "): " ++ text
  | .notFound text => "Not found: " ++ text
  | .badRequest text => "Bad request: " ++ text
  | .forbidden text => "Access forbidden: " ++ text
  | .invalidMessage text => "Invalid message format: " ++ text
  | .label text => "Label error: " ++ text
  | .io text => "IO error: " ++ text

/-- The error may pass by itself. -/
def isTransient : MailboxError → Bool
  | .rateLimited _ => true
  | .server _ _ => true
  | .network _ => true
  | _ => false

end MailboxError

end InboxAudit.Mail
