import InboxAudit.Analysis.Replay
import InboxAudit.Collections.SortedTable
import InboxAudit.Json.Record

/-!
# Findings

What a replay shows about the rules: dead rules were replayed and matched nothing, missing labels
are named by rules and do not exist, and a conflict is a set of rules that archive and star one
and the same message. Conflicts are listed once a key, in the order of the keys. The messages that are
hit have no order of their own, so what is said of findings is said for every order in which they are
visited (`conflictsOn`, `analyzeOn`).
-/

namespace InboxAudit.Analysis
set_option autoImplicit false

open InboxAudit.Filter (Rule)
open InboxAudit.Mail (LabelCatalog MessageId)

/-- A rule and what is wrong with it. -/
structure DeadRule where
  name : String
  reason : String
  deriving Repr, DecidableEq

/-- A sorted set of rules that contradict each other. -/
structure Conflict where
  rules : List String
  description : String
  deriving Repr, DecidableEq

/-- All findings of one replay. -/
structure Findings where
  deadRules : List DeadRule
  missingLabels : List String
  conflicts : List Conflict
  deriving Repr, DecidableEq

/-- Nothing was found. -/
def Findings.empty : Findings := ⟨[], [], []⟩

/-- Nothing was found. -/
def Findings.isEmpty (f : Findings) : Bool :=
  f.deadRules.isEmpty && f.missingLabels.isEmpty && f.conflicts.isEmpty

/-- The rule was replayed and the entry of its name is empty. -/
def isDead (replay : Replay) (rule : Rule) : Bool :=
  rule.isReplayable && replay.get? rule.name == some []

/-- The dead rules in rule order. -/
def deadRules (rules : List Rule) (replay : Replay) : List DeadRule :=
  (rules.filter (isDead replay)).map fun rule => ⟨rule.name, "no messages matched in lookback"⟩

/-- The list without repetitions, each item where it first stands. -/
def firstSeen (items : List String) : List String :=
  items.foldl (fun seen item => if item ∈ seen then seen else seen ++ [item]) []

/-- The label names that rules use and the mailbox lacks, in the order of first use. -/
def missingLabels (rules : List Rule) (catalog : LabelCatalog) : List String :=
  firstSeen ((rules.flatMap (·.effect.labels)).filter fun name => !catalog.containsName name)

/-- The entry of the rule's name holds the message. -/
def hits (replay : Replay) (id : MessageId) (rule : Rule) : Bool :=
  ((replay.get? rule.name).getD []).contains id

/-- The messages that some rule hits, each once. -/
def hitIds (rules : List Rule) (replay : Replay) : List MessageId :=
  firstSeen (rules.flatMap fun rule => (replay.get? rule.name).getD [])

/-- The names of the archiving and starring rules that hit a message, if there are both. -/
def clash? (rules : List Rule) (replay : Replay) (id : MessageId) : Option (List String) :=
  let hitting := rules.filter (hits replay id)
  let archiving := hitting.filter (·.effect.archive)
  let starring := hitting.filter (·.effect.star)
  if archiving.isEmpty || starring.isEmpty then none
  else some (Names.ofList ((archiving ++ starring).map (·.name)))

/-- The key of a rule set: its names with bars between them. -/
def conflictKey (names : List String) : String := "|".intercalate names

/-- The conflicts on some messages, visited in the given order. -/
def conflictsOn (rules : List Rule) (replay : Replay) (ids : List MessageId) : List Conflict :=
  let sets : SortedTable (List String) := (ids.filterMap (clash? rules replay)).foldl
    (fun sets names => sets.putNew (conflictKey names) names) []
  sets.map fun entry => ⟨entry.2, "archive and star rules overlap"⟩

/-- The conflicts of a replay, its messages visited as the rules hit them. -/
def conflicts (rules : List Rule) (replay : Replay) : List Conflict :=
  conflictsOn rules replay (hitIds rules replay)

/-- All findings of a replay, its messages visited in the given order. -/
def analyzeOn (rules : List Rule) (replay : Replay) (catalog : LabelCatalog) (ids : List MessageId) : Findings :=
  ⟨deadRules rules replay, missingLabels rules catalog, conflictsOn rules replay ids⟩

/-- All findings of a replay. -/
def analyze (rules : List Rule) (replay : Replay) (catalog : LabelCatalog) : Findings :=
  analyzeOn rules replay catalog (hitIds rules replay)

open Json (fields? field text? list?)

/-- A dead rule in JSON. -/
def DeadRule.ofJson? (v : Json) : Option DeadRule := do
  match ← fields? ["name", "reason"] v with
  | [name, reason] => return ⟨← field text? name, ← field text? reason⟩
  | _ => none

/-- A conflict in JSON. -/
def Conflict.ofJson? (v : Json) : Option Conflict := do
  match ← fields? ["rules", "description"] v with
  | [rules, description] => return ⟨← field (list? text?) rules, ← field text? description⟩
  | _ => none

/-- Findings in JSON. -/
def Findings.ofJson? (v : Json) : Option Findings := do
  match ← fields? ["dead_rules", "missing_labels", "conflicts"] v with
  | [deadRules, missingLabels, conflicts] =>
    return ⟨← field (list? DeadRule.ofJson?) deadRules, ← field (list? text?) missingLabels,
      ← field (list? Conflict.ofJson?) conflicts⟩
  | _ => none

/-- A dead rule as JSON. -/
def DeadRule.toJson (d : DeadRule) : Json :=
  .object [("name", .string d.name), ("reason", .string d.reason)]

/-- A conflict as JSON. -/
def Conflict.toJson (c : Conflict) : Json :=
  .object [("rules", Json.texts c.rules), ("description", .string c.description)]

/-- Findings as JSON. -/
def Findings.toJson (f : Findings) : Json :=
  .object [("dead_rules", .array (f.deadRules.map DeadRule.toJson)),
    ("missing_labels", Json.texts f.missingLabels),
    ("conflicts", .array (f.conflicts.map Conflict.toJson))]

end InboxAudit.Analysis
