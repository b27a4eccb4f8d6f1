import InboxAudit.Audit.Run
import InboxAudit.Filter.Export.Loader
import InboxAudit.Mail.Service.Client
import InboxAudit.Numbers.Width
import InboxAudit.Pace.TokenBucket

/-!
# Live audits

An audit of the mailbox itself: labels and messages come from the mail service, filters from a
loader, and a token bucket paces the calls by the clock of the host.
-/

namespace InboxAudit.Audit
set_option autoImplicit false

open InboxAudit.Filter (Loader)
open InboxAudit.Mail
open InboxAudit.Pace (TokenBucket)

variable {m : Type → Type} [Monad m] [Host m]

/-- The runs that a token bucket paces. -/
abbrev Paced (m : Type → Type) := StateT TokenBucket m

/-- A token is taken from the bucket, after pauses while there is none, so many at most. -/
def awaitToken : (pauses : Nat) → Paced m Bool
  | 0 => return false
  | pauses + 1 => do
    let time : Time.Instant ← (Host.now : m Time.Instant)
    match ← modifyGet (TokenBucket.turn time.toRat false) with
    | .granted => return true
    | .cancelled => return false
    | .sleep seconds =>
      (Host.pause seconds : m Unit)
      awaitToken pauses

/-- More pauses than a token takes to come back. -/
def maxPauses : Nat := 1000

/-- A result as a reply. -/
def Reply.ofExcept {r : Request} : Except r.Failure r.Answer → Reply r
  | .ok answer => .answered answer
  | .error cause => .failed cause

/-- The mail service, a loader, a bucket and a clock as the surroundings of an audit. -/
def liveSurroundings (net : Http.Network m) (loader : Option Loader) : Surroundings (Paced m) where
  reply
    | .labels => do return .ofExcept (← (Service.listLabels.run net : m _))
    | .leave _ => do return if ← awaitToken maxPauses then .answered () else .cancelled
    | .page query token size => do
      return .ofExcept (← ((Service.listMessages query token size).run net : m _))
    | .metadata id headers => do
      return .ofExcept (← ((Service.getMetadata id headers).run net : m _))
    | .filters => do
      match loader with
      | some loader => return .ofExcept (← (loader.load : m _))
      | none => return .cancelled

/-- The requests that a live audit may make. -/
def liveLimit : Nat := Numbers.tens 12

/-- An audit of the mailbox itself. -/
def runLive (net : Http.Network m) (loader : Option Loader) (bucket : Time.Instant → TokenBucket)
    (options : Options) : m (Except AuditError Report) := do
  let time : Time.Instant ← Host.now
  let (outcome, _) ← (run (liveSurroundings net loader) options loader.isSome time liveLimit).run
    (bucket time)
  return outcome.result.getD (.error (.cancelled "list messages"))

end InboxAudit.Audit
