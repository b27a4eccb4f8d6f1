import InboxAudit.Audit.Error

/-!
# Failed commands

How the failure of a command is told: the error, what caused it, a hint where the user can do
something about it, and where to find help.
-/

namespace InboxAudit.Command
set_option autoImplicit false

open Mail (MailboxError)

/-- Why a command failed. -/
inductive Failure where
  | error (e : AuditError)
  /-- A file is there that may not be written over. -/
  | exists (path : String)
  deriving Repr, DecidableEq

/-- Lines of text. -/
def lines (texts : List String) : String := String.join (texts.map (· ++ "\n"))

/-- What caused a mailbox error: an error of the operating system. -/
def mailboxCauses : MailboxError → List String
  | .io text => [text]
  | _ => []

/-- What caused an error, the nearest cause first. -/
def causes : AuditError → List String
  | .fetch _ source => source.message :: mailboxCauses source
  | _ => []

/-- What the user can do about a mailbox error. -/
def mailboxHint : MailboxError → List String
  | .auth _ =>
    ["", "Hint: Make sure your credentials.json file is valid.",
      "      You can download it from Google Cloud Console.",
      "      Try running: gmail-audit auth --force"]
  | .rateLimited _ =>
    ["", "Hint: You've hit Gmail API rate limits.",
      "      Consider lowering rate.requests_per_second in config."]
  | .api _ => serviceHint
  | .server _ _ => serviceHint
  | _ => []
where
  /-- The service may be in trouble. -/
  serviceHint : List String :=
    ["", "Hint: This may be a temporary API error.", "      Try running the command again."]

/-- What the user can do about an error. -/
def hint : AuditError → List String
  | .config _ =>
    ["", "Hint: Check your configuration file for errors.",
      "      Run: gmail-audit init-config --force"]
  | .filters _ =>
    ["", "Hint: Make sure gmailctl is installed and \x60gmailctl compile\x60 succeeds.",
      "      Or set gmailctl.export_file to a pre-compiled export."]
  | .fetch _ source => mailboxHint source
  | _ => []

/-- The failure as it is told to the user. -/
def Failure.report (f : Failure) : String :=
  let told := match f with
    | .error e => ["Error: " ++ e.message] ++ (causes e).map ("  Caused by: " ++ ·) ++ hint e
    | .exists path => ["Error: " ++ path ++ " already exists; pass --force to overwrite"]
  lines (told ++ ["", "For help, run: gmail-audit --help"])

end InboxAudit.Command
