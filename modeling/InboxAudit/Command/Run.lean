import InboxAudit.Access.TokenCache
import InboxAudit.Audit.Live
import InboxAudit.Command.Basic
import InboxAudit.Report.File
import InboxAudit.Settings.File

/-!
# Carrying out commands

Every command but the one that writes default settings needs access to the mailbox. An audit is
printed and, where a path is given, written to a file; a lint run is printed and fails where its
policy is broken.
-/

namespace InboxAudit.Command
set_option autoImplicit false

open InboxAudit.Filter (Loader)
open Text.Quoted (quote)

variable {m : Type → Type} [Monad m] [Host m]

/-- What comes of a command. -/
inductive Outcome where
  /-- Access to the mailbox with this address. -/
  | access (address : String)
  | report (r : Report)
  /-- A lint run, and whether its policy is broken. -/
  | checked (isBroken : Bool)
  /-- A settings file. -/
  | settings (path : String)

/-- An access error as the failure of a command. -/
def accessError (e : Mail.MailboxError) : AuditError := .fetch "authenticate" e

/-- Access to the mailbox: the network with the token that is kept for it. -/
def connect (network : Access.Token → Http.Network m) (i : Invocation) :
    m (Except AuditError (Http.Network m)) := do
  match ← Host.makeParent i.tokenCache with
  | .error (parent, e) =>
    return .error (.config ("Failed to create " ++ parent ++ ": " ++ e.message))
  | .ok () =>
    match ← Access.authorize i.credentials i.tokenCache [Access.readScope] with
    | .error e => return .error (accessError e)
    | .ok token => return .ok (network token)

/-- The tokens that are kept are removed where that is forced. -/
def forget (i : Invocation) (force : Bool) : m (Except AuditError Unit) := do
  if !force then return .ok ()
  match ← Access.clearTokens i.tokenCache with
  | .error e => return .error (accessError e)
  | .ok removed =>
    if removed then Host.note .info .commands ("Removed cached token at " ++ quote i.tokenCache)
    return .ok ()

/-- Access to the mailbox, shown by its address. -/
def runAuth (network : Access.Token → Http.Network m) (i : Invocation) (force : Bool) :
    m (Except AuditError Outcome) := do
  match ← forget i force with
  | .error e => return .error e
  | .ok () =>
    match ← connect network i with
    | .error e => return .error e
    | .ok net =>
      match ← Mail.Service.profileAddress.run net with
      | .error e => return .error (.fetch "get profile" e)
      | .ok address => return .ok (.access address)

/-- The report of an audit under some settings, with or without filters. -/
def makeReport (network : Access.Token → Http.Network m) (i : Invocation) (s : Settings)
    (options : Audit.Options) (withFilters : Bool) : m (Except AuditError Report) := do
  match ← connect network i with
  | .error e => return .error e
  | .ok net =>
    let loader := if withFilters then Loader.ofSettings s.filters else none
    Audit.runLive net loader
      (fun time => .new s.rate.requestsPerSecond s.rate.burst time.toRat) options

/-- An audit that is printed and may be written to a file. -/
def runAudit (network : Access.Token → Http.Network m) (i : Invocation) (s : Settings)
    (options : Audit.Options) (json : Option String) (noRules : Bool) :
    m (Except AuditError Outcome) := do
  match ← makeReport network i s options (!noRules) with
  | .error e => return .error e
  | .ok r =>
    Host.print r.human
    match json with
    | none => return .ok (.report r)
    | some path =>
      match ← r.save path with
      | .error e => return .error e
      | .ok target =>
        Host.note .info .commands ("Wrote JSON report to " ++ quote target)
        return .ok (.report r)

/-- A lint run that is printed. -/
def runLint (network : Access.Token → Http.Network m) (i : Invocation) (s : Settings)
    (options : Audit.Options) (policy : List String) : m (Except AuditError Outcome) := do
  if !s.filters.enabled then
    Host.note .warn .commands ("gmailctl replay is disabled in " ++ quote i.config ++
      "; lint has no findings to check")
  match ← makeReport network i s options true with
  | .error e => return .error e
  | .ok r =>
    let lint := Audit.lint options r
    Host.print lint.summary
    let broken := lint.fails policy
    if broken then
      Host.note .warn .commands "Lint policy failed"
        [("fail_on", "[" ++ ", ".intercalate (policy.map quote) ++ "]")]
    return .ok (.checked broken)

/-- A command is carried out. -/
def run (network : Access.Token → Http.Network m) (i : Invocation) :
    m (Except AuditError Outcome) := do
  match i.command with
  | .auth force => runAuth network i force
  | .audit days topN json noRules =>
    match ← Settings.load i.config with
    | .error e => return .error e
    | .ok s => runAudit network i s (s.auditOptions days topN) json noRules
  | .lint days failOn =>
    match ← Settings.load i.config with
    | .error e => return .error e
    | .ok s =>
      runLint network i s (s.lintOptions days) ((failOn.map FailOn.parsePolicy).getD s.lint.failOn)
  | .initConfig output _ =>
    match ← Settings.default.save output with
    | .error e => return .error e
    | .ok () => return .ok (.settings output)

end InboxAudit.Command
