import InboxAudit.Http.Status
import InboxAudit.Json.Canonical
import InboxAudit.Mail.Error
import InboxAudit.Numbers.Width
import InboxAudit.Text.Blank
import InboxAudit.Text.Digits

/-!
# Failed calls to the mail service

How a call to the mail service can fail, and what each failure means for the mailbox: the answer's
status decides, a body that explains the failure makes it a bad request, and trouble on the way
is trouble on the network.
-/

namespace InboxAudit.Mail
set_option autoImplicit false

/-- How a call to the mail service fails. -/
inductive ApiFailure where
  /-- An answer of no success. -/
  | status (code : Nat) (headers : List (String × String))
  /-- An answer of no success that explains itself. -/
  | explained (body : Json)
  /-- No connection. -/
  | connection (text : String)
  /-- Trouble while reading or writing. -/
  | io (text : String)
  /-- No answer within the time limit, in seconds. -/
  | timeout (limit : Nat)
  /-- A body that is not what the call returns. -/
  | undecodable
  | uploadTooLarge (size limit : Nat)
  | missingKey
  | missingToken (text : String)
  | fieldClash (field : String)
  | cancelled
  deriving Repr

/-- The seconds that a text spells, a number of 64 bits. -/
def parseSeconds? (s : List Char) : Option Nat := (Text.natural? s).filter (· < Numbers.bound 64)

/-- How long to wait after too many calls: what the first `Retry-After` header says in seconds,
else five. -/
def retryAfter (headers : List (String × String)) : Nat :=
  let header := headers.find? fun h => Text.sameAsciiCase h.1.toList "retry-after".toList
  (header.bind fun h => parseSeconds? h.2.toList).getD 5

namespace ApiFailure

/-- What a failed call means for the mailbox. -/
def toError : ApiFailure → MailboxError
  | .status code headers =>
    let text := "HTTP " ++ toString code ++ ": " ++ Http.reason code
    if code = 429 then .rateLimited (retryAfter headers)
    else if code = 404 then .notFound "Resource not found"
    else if code = 400 then .badRequest text
    else if code = 403 then .forbidden text
    else if 500 ≤ code ∧ code ≤ 599 then .server code text
    else .api text
  | .explained body => .badRequest (String.ofList body.compact)
  | .connection text => .network ("Connection error: " ++ text)
  | .io text => .network text
  | .timeout limit => .network ("API call timed out after " ++ toString limit ++ "s")
  | .undecodable => .api "(undecodable body)"
  | .uploadTooLarge size limit =>
    .api ("The media size " ++ toString size ++ " exceeds the maximum allowed upload size of " ++
      toString limit ++ "\n")
  | .missingKey =>
    .api ("The application's API key was not found in the configuration\n" ++
      "It is used as there are no Scopes defined for this method.\n")
  | .missingToken text => .api ("Token retrieval failed: " ++ text ++ "\n")
  | .fieldClash field =>
    .api ("The custom parameter '" ++ field ++ "' is already provided natively by the CallBuilder.\n")
  | .cancelled => .api "Operation cancelled by delegate\n"

end ApiFailure

end InboxAudit.Mail
