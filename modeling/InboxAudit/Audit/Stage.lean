import InboxAudit.Analysis.Findings
import InboxAudit.Analysis.Ranking
import InboxAudit.Audit.Options
import InboxAudit.Audit.Request
import InboxAudit.Report.Basic

/-!
# The stages of an audit

An audit lists the labels, then page after page of the messages, fetching the metadata of every
message of a page before the next page is listed; before every page and every message it asks for
leave. When the listing is at its end the sample is ranked, and the filters are loaded and
replayed, unless the sample is empty or there are no filters to load. A stage is what has been
gathered so far and what is asked for next: `request` is the question, `next` goes on from the
answer.
-/

namespace InboxAudit.Audit
set_option autoImplicit false

open InboxAudit.Analysis
open InboxAudit.Mail (LabelCatalog ListPage Message MessageId)

/-- What is settled before an audit begins: its options with all defaults put in, whether there are
filters to load, and the time that its report carries. -/
structure Plan where
  options : Options
  hasFilters : Bool
  time : Time.Instant

/-- What an audit has gathered from the mailbox. -/
structure Gathered where
  catalog : LabelCatalog
  sample : Array Message

/-- A stage of an audit. Messages of the current page that are still to be fetched are `pending`,
and `next` is the token of the page after it. -/
inductive Stage where
  | labels
  | pageLeave (g : Gathered) (token : String)
  | page (g : Gathered) (token : String)
  | messageLeave (g : Gathered) (id : MessageId) (pending : List MessageId) (next : String)
  | message (g : Gathered) (id : MessageId) (pending : List MessageId) (next : String)
  | filters (g : Gathered)

/-- What an audit does after an answer. -/
inductive Next where
  | ask (stage : Stage)
  | finish (report : Report)

namespace Plan

/-- The report on a sample before anything is found out about it. -/
def blankReport (plan : Plan) (total : Nat) : Report :=
  ⟨plan.time, plan.options.window, total, [], [], [], ⟨[], [], []⟩, Findings.empty⟩

/-- The report on what was gathered, with what was found about the filters. -/
def report (plan : Plan) (g : Gathered) (findings : Findings) : Report :=
  let sample := g.sample.toList
  let senders := topSenders plan.options.topN sample
  let lists := topLists plan.options.topN sample
  { plan.blankReport sample.length with
    topSenders := senders
    topLists := lists
    coverage := coverage sample g.catalog
    suggestions := ⟨archiveSnippets lists senders, findings.deadRules, findings.conflicts⟩
    findings := findings }

/-- What the replay of an export over the sample shows. -/
def findings (g : Gathered) (e : Filter.Export) : Findings :=
  let rules := e.rules g.catalog
  if rules.isEmpty then Findings.empty
  else analyze rules (replay rules g.sample.toList) g.catalog

/-- What follows when the listing is at its end. -/
def afterSample (plan : Plan) (g : Gathered) : Next :=
  if g.sample.isEmpty then .finish (plan.blankReport 0)
  else if plan.hasFilters then .ask (.filters g)
  else .finish (plan.report g Findings.empty)

/-- What follows when some messages of a page are still to be fetched. -/
def afterMessages (plan : Plan) (g : Gathered) (pending : List MessageId) (next : String) : Next :=
  match pending with
  | id :: rest => .ask (.messageLeave g id rest next)
  | [] => if next = "" then plan.afterSample g else .ask (.pageLeave g next)

end Plan

namespace Stage

/-- What an audit asks for at a stage. -/
def request (plan : Plan) : Stage → Request
  | .labels => .labels
  | .pageLeave _ _ => .leave "rate limit messages"
  | .page _ token => .page plan.options.window.query token plan.options.pageSize
  | .messageLeave _ _ _ _ => .leave "rate limit metadata"
  | .message _ id _ _ => .metadata id plan.options.headers
  | .filters _ => .filters

/-- How an audit goes on from the answer at a stage. -/
def next (plan : Plan) : (stage : Stage) → (stage.request plan).Answer → Next
  | .labels, catalog => .ask (.pageLeave ⟨catalog, #[]⟩ "")
  | .pageLeave g token, _ => .ask (.page g token)
  | .page g _, listed => plan.afterMessages g listed.ids listed.next
  | .messageLeave g id pending next, _ => .ask (.message g id pending next)
  | .message g _ pending next, m =>
    plan.afterMessages { g with sample := g.sample.push m } pending next
  | .filters g, e => .finish (plan.report g (Plan.findings g e))

end Stage

end InboxAudit.Audit
