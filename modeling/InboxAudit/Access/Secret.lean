import InboxAudit.Host.Basic
import InboxAudit.Json.Reader
import InboxAudit.Json.Record
import InboxAudit.Mail.Error

/-!
# Client secrets

The secret by which the program makes itself known to the mail service. It is kept in a file, under
the kind of program that it was issued for; where there is no file it is put together from the
environment.
-/

namespace InboxAudit.Access
set_option autoImplicit false

open Json (allFields? field fieldOr text? list? optional?)
open Mail (MailboxError)

/-- A client secret. -/
structure ClientSecret where
  clientId : String
  clientSecret : String
  tokenUri : String
  authUri : String
  redirectUris : List String
  projectId : Option String
  deriving Repr, DecidableEq

namespace ClientSecret

/-- A secret in JSON; four more fields are known and not used. -/
def ofJson? (v : Json) : Option ClientSecret := do
  match ← allFields? ["client_id", "client_secret", "token_uri", "auth_uri", "redirect_uris",
      "project_id", "client_email", "auth_provider_x509_cert_url", "client_x509_cert_url"] v with
  | [clientId, clientSecret, tokenUri, authUri, redirectUris, projectId, email, provider, client] =>
    let optionalText := fieldOr none (optional? text?)
    let secret : ClientSecret := ⟨← field text? clientId, ← field text? clientSecret,
      ← field text? tokenUri, ← field text? authUri, ← field (list? text?) redirectUris,
      ← optionalText projectId⟩
    let _ ← optionalText email
    let _ ← optionalText provider
    let _ ← optionalText client
    return secret
  | _ => none

/-- The secrets of a file, by the kind of program that they were issued for. -/
def issued? (v : Json) : Option (Option ClientSecret × Option ClientSecret) := do
  match ← allFields? ["web", "installed"] v with
  | [web, installed] =>
    return (← fieldOr none (optional? ofJson?) web, ← fieldOr none (optional? ofJson?) installed)
  | _ => none

/-- The secret that some bytes hold. -/
def decode (bytes : List UInt8) : Except String ClientSecret :=
  match (Json.readBytes bytes).bind issued? with
  | none => .error "Bad application secret: not a client secret in JSON"
  | some (web, installed) =>
    match web.or installed with
    | some secret => .ok secret
    | none => .error "Unknown application secret format"

variable {m : Type → Type} [Monad m] [Host m]

/-- The value of a variable that must be set. -/
def variableNamed (name : String) : m (Except MailboxError String) := do
  match ← Host.environment name with
  | some value => return .ok value
  | none => return .error (.auth (name ++ " not set"))

/-- The secret of the environment. -/
def ofEnvironment : m (Except MailboxError ClientSecret) := do
  match ← variableNamed "GMAIL_CLIENT_ID" with
  | .error e => return .error e
  | .ok clientId =>
    match ← variableNamed "GMAIL_CLIENT_SECRET" with
    | .error e => return .error e
    | .ok clientSecret =>
      let redirect := (← Host.environment "GMAIL_REDIRECT_URI").getD "http://localhost:8080"
      return .ok {
        clientId, clientSecret
        tokenUri := "https://oauth2.googleapis.com/token"
        authUri := "https://accounts.google.com/o/oauth2/auth"
        redirectUris := [redirect]
        projectId := none }

/-- The secret of a file. -/
def ofFile (path : String) : m (Except MailboxError ClientSecret) := do
  let secret : Except String ClientSecret := match ← Host.readFile path with
    | .error e => .error e.message
    | .ok bytes => decode bytes
  return secret.mapError fun reason => .auth ("Failed to read credentials: " ++ reason)

/-- The secret of a file, or of the environment where there is no file. -/
def load (path : String) : m (Except MailboxError ClientSecret) := do
  if ← Host.isPresent path then ofFile path
  else
    Host.note .debug .access "Credentials file not found, trying environment" [("path", path)]
    return (← ofEnvironment).mapError fun e => .auth (path ++ " not found and " ++ e.message)

end ClientSecret

end InboxAudit.Access
