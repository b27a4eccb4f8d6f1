import InboxAudit.Filter.Rule

/-!
# Replaying rules

The replay of rules over a sample keeps, under the name of every rule that can be replayed, the
messages it matched in sample order. Rules of one name share an entry, in rule order. A name
without an entry was never replayed, which is different from an entry without messages.
-/

namespace InboxAudit.Analysis
set_option autoImplicit false

open InboxAudit.Filter (Rule holdsAll)
open InboxAudit.Mail (Message MessageId)

/-- The matched messages under the names of the replayed rules. -/
abbrev Replay := Table (List MessageId)

/-- The messages of the sample that meet all matchers, in order. -/
def matchedIds (matchers : List Filter.Matcher) (sample : List Message) : List MessageId :=
  (sample.filter (holdsAll matchers)).map (·.id)

/-- The replay with one more rule. -/
def Replay.addRule (sample : List Message) (replay : Replay) (rule : Rule) : Replay :=
  match rule.matchers with
  | .error _ => replay
  | .ok matchers =>
    replay.put rule.name ((replay.get? rule.name).getD [] ++ matchedIds matchers sample)

/-- The replay of rules over a sample. -/
def replay (rules : List Rule) (sample : List Message) : Replay :=
  rules.foldl (Replay.addRule sample) []

end InboxAudit.Analysis
