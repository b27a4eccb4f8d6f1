import InboxAudit.Audit.Run
import InboxAudit.Pace.TokenBucket

/-!
# Rehearsals

A rehearsal runs audits in surroundings that are written down beforehand: what the mailbox and the
filter loader answer, how calls are paced, and at which call the audits are cancelled. The calls
that are made are written down. A call to the mailbox or the loader that is begun after the
cancellation is never made, and the call during which it comes may be lost to it.
-/

namespace InboxAudit.Audit
set_option autoImplicit false

open InboxAudit.Mail (LabelCatalog ListPage MailboxError Message MessageId)
open InboxAudit.Pace (TokenBucket)

/-- What holds up the calls of a rehearsal. -/
inductive Pacing where
  /-- Nothing does. -/
  | none
  /-- A bucket of so many tokens; one comes back in a second. -/
  | bucket (burst : Nat)
  /-- Leave is always given, but at one request the error is returned, and the audits are
  cancelled just before where `cancels` says so. -/
  | scripted (failAt : Option Nat) (error : AuditError) (cancels : Bool)

/-- The surroundings of a rehearsal. Pages are found by their token, messages by their identifier;
what is not there is an empty last page, or a message that is not found. -/
structure Script where
  labels : Except MailboxError LabelCatalog
  pages : List (String × Except MailboxError ListPage)
  messages : List (MessageId × Except MailboxError Message)
  filters : Except AuditError Filter.Export
  pacing : Pacing
  /-- The call during which the audits are cancelled. -/
  cancelAt : Option Nat
  /-- The call during which the audits are cancelled never returns. -/
  hangs : Bool

/-- How far a rehearsal has come. -/
structure Script.State where
  calls : List Request
  cancelled : Bool
  bucket : TokenBucket
  now : Rat

namespace Script

/-- The state before the first call, the audits cancelled already or not. -/
def start (script : Script) (cancelled : Bool) : State :=
  let burst := match script.pacing with
    | .bucket burst => burst
    | _ => 1
  ⟨[], cancelled, TokenBucket.new 1 burst 0, 0⟩

/-- What the script says about a request to the mailbox or the loader. -/
def scripted (script : Script) : (r : Request) → Reply r
  | .labels => ofExcept script.labels
  | .leave _ => .answered ()
  | .page _ token _ =>
    match script.pages.find? (·.1 = token) with
    | some page => ofExcept page.2
    | none => .answered ⟨[], ""⟩
  | .metadata id _ =>
    match script.messages.find? (·.1 = id) with
    | some message => ofExcept message.2
    | none => .failed (.notFound id)
  | .filters => ofExcept script.filters
where
  /-- A written result as a reply. -/
  ofExcept {r : Request} : Except r.Failure r.Answer → Reply r
    | .ok answer => .answered answer
    | .error cause => .failed cause

/-- The state after one more call. -/
def State.record (script : Script) (r : Request) (s : State) : State :=
  { s with
    calls := s.calls ++ [r]
    cancelled := s.cancelled || script.cancelAt == some s.calls.length }

/-- The runs of a rehearsal. -/
abbrev Stepping := StateM State

/-- A call of the mailbox or the loader. -/
def call (script : Script) (r : Request) : Stepping (Reply r) := do
  if (← get).cancelled then return .cancelled
  modify (·.record script r)
  return if (← get).cancelled && script.hangs then .cancelled else script.scripted r

/-- The number of times that leave was asked for. -/
def State.leaves (s : State) : Nat :=
  s.calls.countP fun r => match r with
    | .leave _ => true
    | _ => false

/-- A request for leave. -/
def leave (script : Script) (operation : String) : Stepping (Reply (.leave operation)) := do
  let s ← get
  match script.pacing with
  | .none => return if s.cancelled then .cancelled else .answered ()
  | .bucket _ =>
    let (granted, now, bucket) := s.bucket.wait s.now s.cancelled
    set { s with now, bucket }
    return if granted then .answered () else .cancelled
  | .scripted failAt error cancels =>
    modify (·.record script (.leave operation))
    if failAt = some s.leaves then
      modify fun s => { s with cancelled := s.cancelled || cancels }
      return .failed error
    return .answered ()

/-- The surroundings that a script describes. -/
def surroundings (script : Script) : Surroundings Stepping where
  reply
    | .leave operation => script.leave operation
    | r => script.call r

/-- More requests than one run of a rehearsal makes, unless its listing goes on for ever. -/
def requestLimit (script : Script) : Nat :=
  let listed := script.pages.foldl (fun n page => match page.2 with
    | .ok page => n + page.ids.length + 1
    | .error _ => n + 1) 0
  let failing := match script.pacing with
    | .scripted failAt _ _ => failAt.getD 0
    | _ => 0
  2 * (listed + failing + script.cancelAt.getD 0 + 4)

/-- So many runs one after the other. -/
def rehearse (script : Script) (options : Options) (hasFilters : Bool) (time : Time.Instant)
    (runs : Nat) : Stepping (List Outcome) :=
  (List.replicate runs ()).mapM fun _ =>
    run script.surroundings options hasFilters time script.requestLimit

end Script

end InboxAudit.Audit
