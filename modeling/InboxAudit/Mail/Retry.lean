import InboxAudit.Mail.Error

/-!
# Retrying

An attempt that fails for a transient reason is made again after a pause, so many times at most.
Pauses begin at one second and double up to thirty; a mailbox that asks for a longer pause gets it.
The last attempt decides, and no pause follows it.
-/

namespace InboxAudit.Mail
set_option autoImplicit false

variable {m : Type → Type} [Monad m] {α : Type}

/-- The first pause in seconds. -/
def firstDelay : Nat := 1

/-- The pause that is due after one of `delay` seconds. -/
def nextDelay (delay : Nat) : Nat := min (delay * 2) 30

/-- How long to pause after a failure when a pause of `delay` seconds is due. -/
def pauseAfter (delay : Nat) : MailboxError → Nat
  | .rateLimited asked => max delay asked
  | _ => delay

/-- An attempt, and `retries` more at most while it fails for transient reasons; `delay` is the
first pause. -/
def retryFrom (attempt : m (Except MailboxError α)) (wait : Nat → m Unit) :
    (retries delay : Nat) → m (Except MailboxError α)
  | 0, _ => attempt
  | retries + 1, delay => do
    match ← attempt with
    | .ok value => return .ok value
    | .error e =>
      if e.isTransient then
        wait (pauseAfter delay e)
        retryFrom attempt wait retries (nextDelay delay)
      else return .error e

/-- An attempt, and `retries` more at most while it fails for transient reasons. -/
def retry (attempt : m (Except MailboxError α)) (wait : Nat → m Unit) (retries : Nat) :
    m (Except MailboxError α) :=
  retryFrom attempt wait retries firstDelay

end InboxAudit.Mail
