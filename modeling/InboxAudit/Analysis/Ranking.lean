import InboxAudit.Mail.Domain
import InboxAudit.Mail.LabelCatalog
import InboxAudit.Mail.ListId
import InboxAudit.Collections.SortedTable

/-!
# Rankings

The noisiest sender domains and lists of a sample, the number of messages a label covers, and the
filters suggested for the noisiest: snippets that archive a list or a domain.
-/

namespace InboxAudit.Analysis
set_option autoImplicit false

open InboxAudit.Mail (Message LabelCatalog)

/-- How many messages a key has, and the first subject among them that is not empty. -/
structure Tally where
  count : Nat
  preview : String
  deriving Repr, DecidableEq

/-- The tally with one more message. -/
def Tally.add (t : Tally) (subject : String) : Tally :=
  ⟨t.count + 1, if t.preview = "" then subject else t.preview⟩

/-- One row of a ranking. -/
structure Standing where
  key : String
  count : Nat
  preview : String
  deriving Repr, DecidableEq

/-- The tallies of the keys of a sample; a message whose key is empty is passed over. -/
def tallies (key : Message → String) (sample : List Message) : Table Tally :=
  sample.foldl
    (fun table m =>
      if key m = "" then table
      else table.put (key m) (((table.get? (key m)).getD ⟨0, ""⟩).add (m.header "Subject")))
    []

/-- One row stands before another: more messages first, then the lesser key. -/
def Standing.before (a b : Standing) : Bool :=
  decide (b.count < a.count) || (a.count == b.count && decide (a.key ≤ b.key))

/-- The first rows of the ranking of a sample by a key. -/
def ranking (key : Message → String) (top : Nat) (sample : List Message) : List Standing :=
  let rows := (tallies key sample).map fun entry => ⟨entry.1, entry.2.count, entry.2.preview⟩
  (rows.mergeSort Standing.before).take top

/-- The domain of the sender of a message. -/
def messageDomain (m : Message) : String := Mail.senderDomain (m.header "From")

/-- The list of a message. -/
def messageList (m : Message) : String := Mail.listId (m.header "List-Id")

/-- The noisiest sender domains. -/
def topSenders (top : Nat) (sample : List Message) : List Standing := ranking messageDomain top sample

/-- The noisiest lists. -/
def topLists (top : Nat) (sample : List Message) : List Standing := ranking messageList top sample

/-- How often the labels of the sample resolve to each name, in ascending order of the names. -/
def coverage (sample : List Message) (catalog : LabelCatalog) : SortedTable Nat :=
  (sample.flatMap fun m => m.labels.filterMap catalog.nameOf).foldl SortedTable.count []

/-- A snippet that archives what a criterion matches. -/
def snippet (criterion value : String) : String :=
  "\x7b\n  filter: \x7b " ++ criterion ++ ": \"" ++ value ++
    "\" \x7d,\n  actions: \x7b archive: true, markRead: true \x7d,\n\x7d"

/-- The snippet that archives a list. -/
def listSnippet (row : Standing) : String := snippet "list" row.key

/-- The snippet that archives the senders of a domain. -/
def senderSnippet (row : Standing) : String := snippet "from" ("*@" ++ row.key)

/-- The suggested snippets, lists before senders, ten at most. -/
def archiveSnippets (lists senders : List Standing) : List String :=
  (lists.map listSnippet ++ senders.map senderSnippet).take 10

end InboxAudit.Analysis
