import InboxAudit.Analysis.Findings
import InboxAudit.Analysis.Ranking
import InboxAudit.Json.Printer
import InboxAudit.Json.Reader
import InboxAudit.Report.Window
import InboxAudit.Time.Instant

/-!
# Reports

What an audit found: the rankings, the coverage of the labels, suggestions and findings. A report
is stored as a JSON record, its window as whole seconds; `Report.read` reads what `Report.write`
writes.
-/

namespace InboxAudit
set_option autoImplicit false

open Analysis (Standing DeadRule Conflict Findings)

/-- What to change in the filters. -/
structure Suggestions where
  archiveRules : List String
  removeRules : List DeadRule
  smells : List Conflict
  deriving Repr, DecidableEq

/-- The outcome of an audit. -/
structure Report where
  generatedAt : Time.Instant
  window : Window
  total : Nat
  topSenders : List Standing
  topLists : List Standing
  coverage : SortedTable Nat
  suggestions : Suggestions
  findings : Findings
  deriving Repr, DecidableEq

namespace Report

open Json (fields? field text? list? nat64?)

/-- A ranking row as JSON, its key under the given name. -/
def standingToJson (key : String) (row : Standing) : Json :=
  .object [(key, .string row.key), ("count", Json.nat row.count),
    ("preview_subject", .string row.preview)]

/-- A ranking row in JSON. -/
def standingOfJson? (key : String) (v : Json) : Option Standing := do
  match ← fields? [key, "count", "preview_subject"] v with
  | [name, count, preview] => return ⟨← field text? name, ← field nat64? count, ← field text? preview⟩
  | _ => none

/-- Counts as a JSON object. -/
def coverageToJson (coverage : SortedTable Nat) : Json :=
  .object (coverage.map fun entry => (entry.1, Json.nat entry.2))

/-- Counts in a JSON object; the last of a repeated key counts. -/
def coverageOfJson? : Json → Option (SortedTable Nat)
  | .object members =>
    (members.mapM fun m => (nat64? m.2).map (m.1, ·)).map SortedTable.ofEntries
  | _ => none

/-- Suggestions as JSON. -/
def suggestionsToJson (s : Suggestions) : Json :=
  .object [("archive_rules", Json.texts s.archiveRules),
    ("remove_rules", .array (s.removeRules.map DeadRule.toJson)),
    ("smells", .array (s.smells.map Conflict.toJson))]

/-- Suggestions in JSON. -/
def suggestionsOfJson? (v : Json) : Option Suggestions := do
  match ← fields? ["archive_rules", "remove_rules", "smells"] v with
  | [archiveRules, removeRules, smells] =>
    return ⟨← field (list? text?) archiveRules, ← field (list? DeadRule.ofJson?) removeRules,
      ← field (list? Conflict.ofJson?) smells⟩
  | _ => none

/-- A report as JSON. -/
def toJson (r : Report) : Json :=
  .object [("generated_at", .string r.generatedAt.write),
    ("window", Json.nat r.window.seconds),
    ("total", Json.nat r.total),
    ("top_senders", .array (r.topSenders.map (standingToJson "domain"))),
    ("top_lists", .array (r.topLists.map (standingToJson "list_id"))),
    ("coverage", coverageToJson r.coverage),
    ("suggestions", suggestionsToJson r.suggestions),
    ("findings", r.findings.toJson)]

/-- An instant in JSON. -/
def instantOfJson? (v : Json) : Option Time.Instant :=
  (text? v).bind Time.Instant.read

/-- A report in JSON. -/
def ofJson? (v : Json) : Option Report := do
  match ← fields? ["generated_at", "window", "total", "top_senders", "top_lists", "coverage",
    "suggestions", "findings"] v with
  | [generatedAt, window, total, senders, lists, coverage, suggestions, findings] =>
    return {
      generatedAt := ← field instantOfJson? generatedAt
      window := ⟨← field nat64? window, 0⟩
      total := ← field nat64? total
      topSenders := ← field (list? (standingOfJson? "domain")) senders
      topLists := ← field (list? (standingOfJson? "list_id")) lists
      coverage := ← field coverageOfJson? coverage
      suggestions := ← field suggestionsOfJson? suggestions
      findings := ← field Findings.ofJson? findings }
  | _ => none

/-- The text in which a report is stored: pretty JSON and a line break. -/
def write (r : Report) : List Char := Json.pretty 0 r.toJson ++ ['\n']

/-- The report that a text stores. -/
def read (s : List Char) : Option Report := (Json.read s).bind ofJson?

end Report

end InboxAudit
