import InboxAudit.Access.Secret
import InboxAudit.Access.Token

/-!
# Getting access

Access to a mailbox takes a client secret and a token. Tokens are kept in a file that is readable
for its owner alone once it was used.
-/

namespace InboxAudit.Access
set_option autoImplicit false

open Mail (MailboxError)

variable {m : Type → Type} [Monad m] [Host m]

/-- The file of the tokens is removed; the result tells whether there was one. -/
def clearTokens (path : String) : m (Except MailboxError Bool) := do
  match ← Host.removeFile path with
  | .ok () => return .ok true
  | .error .notFound => return .ok false
  | .error e => return .error (.io e.message)

/-- The permission bits of a file that is readable for its owner alone. -/
def privateMode : Nat := 0o600

/-- The file of the tokens is closed to everybody but its owner. -/
def secureTokens (path : String) : m (Except MailboxError Unit) := do
  match ← Host.kind path with
  | .error e => return .error (.io e.message)
  | .ok _ => return (← Host.setMode path privateMode).mapError fun e => .io e.message

/-- The tokens of a file; none where there is no file. -/
def cachedTokens (path : String) : m (Except String (List Token)) := do
  match ← Host.readFile path with
  | .error .notFound => return .ok []
  | .error e => return .error e.message
  | .ok bytes =>
    match Token.decode? bytes with
    | some tokens => return .ok tokens
    | none => return .error "not a list of tokens in JSON"

/-- A token for some scopes that is kept in a file and is still good. -/
def cachedToken (path : String) (scopes : List String) : m (Except MailboxError Token) := do
  match ← cachedTokens path with
  | .error reason => return .error (.auth ("Failed to build authenticator: " ++ reason))
  | .ok tokens =>
    let now : Time.Instant ← Host.now
    match (Token.choose? scopes tokens).filter (·.isValid now) with
    | some token => return .ok token
    | none => return .error (.auth "Failed to obtain token: no token is kept that gives access")

/-- Access for some scopes by the secret and the token that are kept in files. -/
def authorize (credentials tokens : String) (scopes : List String) : m (Except MailboxError Token) := do
  match ← ClientSecret.load credentials with
  | .error e => return .error e
  | .ok _ =>
    match ← cachedToken tokens scopes with
    | .error e => return .error e
    | .ok token =>
      let secured ← if ← Host.isPresent tokens then secureTokens tokens else pure (.ok ())
      match secured with
      | .error e => return .error e
      | .ok () =>
        Host.note .info .access "Authenticated with Gmail" [("token_cache", tokens)]
        return .ok token

end InboxAudit.Access
