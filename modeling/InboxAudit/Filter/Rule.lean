import InboxAudit.Filter.Export.Basic
import InboxAudit.Filter.Query
import InboxAudit.Mail.LabelCatalog
import InboxAudit.Collections.Names

/-!
# Rules

A filter compiled for replay: a name, what the rule does, and the matchers that must all hold, or
why it cannot be replayed. Label identifiers are resolved through the labels of the export, then
through those of the mailbox.
-/

namespace InboxAudit.Filter
set_option autoImplicit false

open InboxAudit.Mail (LabelCatalog)

/-- What a rule does to the messages it matches; labels are a sorted set of names. -/
structure Effect where
  archive : Bool
  markRead : Bool
  star : Bool
  labels : List String
  deriving Repr, DecidableEq

/-- A filter compiled for replay. -/
structure Rule where
  name : String
  effect : Effect
  matchers : Except NotReplayable (List Matcher)

/-- The rule can be replayed. -/
def Rule.isReplayable (r : Rule) : Bool := r.matchers.isOk

/-- The text without white space at its ends. -/
def stripText (s : String) : String :=
  String.ofList (Text.strip s.toList)

/-- The name of a filter without name and identifier: its first criterion that says something. -/
def Criteria.describe (c : Criteria) : String :=
  if stripText c.sender ≠ "" then "from:" ++ stripText c.sender
  else if stripText c.list ≠ "" then "list:" ++ stripText c.list
  else if stripText c.subject ≠ "" then "subject:" ++ stripText c.subject
  else if stripText c.query ≠ "" then stripText c.query
  else "gmailctl-rule"

/-- The name under which a filter is reported. -/
def ruleName (f : Filter) : String :=
  if stripText f.name ≠ "" then stripText f.name
  else if stripText f.id ≠ "" then stripText f.id
  else f.criteria.describe

/-- The names of label identifiers: those of the mailbox, overridden by complete labels of the
export, the last of which counts. -/
def labelNames (e : Export) (catalog : LabelCatalog) : Table String :=
  e.labels.foldl
    (fun names label => if label.id = "" ∨ label.name = "" then names else names.put label.id label.name)
    catalog.byId

/-- What an action does, label identifiers resolved; an empty name is no label. -/
def Action.effect (a : Action) (names : Table String) : Effect where
  archive := a.removeLabels.contains "INBOX"
  markRead := a.removeLabels.contains "UNREAD"
  star := a.addLabels.contains "STARRED"
  labels := Names.ofList (((a.addLabels.filter (· ≠ "STARRED")).filterMap names.get?).filter (· ≠ ""))

/-- The matchers of the criteria outside the query, in the order sender, recipient, subject, list. -/
def Criteria.headerMatchers (c : Criteria) : List Matcher :=
  [Query.textMatcher? .sender c.sender, Query.textMatcher? .recipient c.recipient,
    Query.textMatcher? .subject c.subject, Query.listMatcher? c.list].filterMap fun m => m

/-- The matchers of the query, none for a blank one. -/
def Criteria.queryMatchers (c : Criteria) : Except NotReplayable (List Matcher) :=
  if stripText c.query = "" then .ok [] else Query.parse c.query

/-- All matchers of the criteria, or why they cannot be replayed. -/
def Criteria.matchers (c : Criteria) : Except NotReplayable (List Matcher) :=
  match c.queryMatchers with
  | .error reason => .error reason
  | .ok queryMatchers =>
    match c.headerMatchers ++ queryMatchers with
    | [] => .error .noMatchers
    | matchers => .ok matchers

/-- A filter compiled for replay. -/
def toRule (names : Table String) (f : Filter) : Rule :=
  ⟨f.ruleName, f.action.effect names, f.criteria.matchers⟩

/-- The rules of an export, in its order. -/
def Export.rules (e : Export) (catalog : LabelCatalog) : List Rule :=
  e.filters.map (·.toRule (labelNames e catalog))

end InboxAudit.Filter
