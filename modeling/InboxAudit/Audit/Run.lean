import InboxAudit.Audit.Stage
import InboxAudit.Report.Lint

/-!
# Running an audit

The surroundings of an audit answer its requests, one after the other, and may change with every
answer. An audit ends with the first request that is not answered, or with a report. Nothing
bounds the listing of a mailbox, so a run is given the number of requests it may make; a run that
uses them up has no result.
-/

namespace InboxAudit.Audit
set_option autoImplicit false

variable {m : Type → Type} [Monad m]

/-- The surroundings of an audit: what a request leads to. -/
structure Surroundings (m : Type → Type) where
  reply : (r : Request) → m (Reply r)

/-- What a run leaves behind: its requests in order, and its result. -/
structure Outcome where
  requests : List Request
  result : Option (Except AuditError Report)

/-- The outcome of a run with one more request in front. -/
def Outcome.after (request : Request) (rest : Outcome) : Outcome :=
  { rest with requests := request :: rest.requests }

/-- A run from a stage on, with so many requests at most. -/
def runFrom (plan : Plan) (world : Surroundings m) : Nat → Stage → m Outcome
  | 0, _ => pure ⟨[], none⟩
  | limit + 1, stage => do
    let request := stage.request plan
    match (← world.reply request).settle with
    | .error e => pure ⟨[request], some (.error e)⟩
    | .ok answer =>
      match stage.next plan answer with
      | .finish report => pure ⟨[request], some (.ok report)⟩
      | .ask stage => return Outcome.after request (← runFrom plan world limit stage)

/-- A run under some options, with so many requests at most; unusable options end it before its
first request. -/
def run (world : Surroundings m) (options : Options) (hasFilters : Bool) (time : Time.Instant)
    (limit : Nat) : m Outcome :=
  match options.resolved with
  | .error e => pure ⟨[], some (.error e)⟩
  | .ok options => runFrom ⟨options, hasFilters, time⟩ world limit .labels

/-- The part of a report that a lint shows, under the window that was asked for. -/
def lint (options : Options) (report : Report) : LintReport :=
  ⟨options.window, report.total, report.findings⟩

end InboxAudit.Audit
