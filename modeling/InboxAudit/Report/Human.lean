import InboxAudit.Report.Basic

/-!
# Reports for a terminal

The text of a report: a heading, then the sections that have something to show. Columns are
padded by counting characters, and a subject that is too long is cut and marked.
-/

namespace InboxAudit.Report
set_option autoImplicit false

open InboxAudit.Analysis (Standing Findings)

/-- The text with spaces after it up to a width. -/
def padEnd (width : Nat) (s : String) : String :=
  s ++ String.ofList (List.replicate (width - s.length) ' ')

/-- The text with spaces before it up to a width. -/
def padStart (width : Nat) (s : String) : String :=
  String.ofList (List.replicate (width - s.length) ' ') ++ s

/-- The text, or its beginning and an ellipsis, in at most the given number of characters. -/
def shorten (limit : Nat) (s : String) : String :=
  if s.length ≤ limit then s else String.ofList (s.toList.take (limit - 1)) ++ "…"

/-- A row of a ranking. -/
def standingLine (row : Standing) : String :=
  "  " ++ padEnd 30 row.key ++ " " ++ padStart 4 (toString row.count) ++ " " ++ shorten 60 row.preview ++ "\n"

/-- A heading and lines, or nothing without lines. -/
def listing (heading : String) (lines : List String) : String :=
  if lines.isEmpty then "" else heading ++ String.join lines

/-- One line for each finding. -/
def findingLines (f : Findings) : List String :=
  f.deadRules.map (fun d => "  dead rule: " ++ d.name ++ " — " ++ d.reason ++ "\n") ++
    f.missingLabels.map (fun name => "  missing label: " ++ name ++ "\n") ++
    f.conflicts.map fun c => "  conflict: " ++ ", ".intercalate c.rules ++ " (" ++ c.description ++ ")\n"

/-- The report as text. -/
def human (r : Report) : String :=
  "gmail-audit — window " ++ r.window.label ++ " (" ++ toString r.total ++ " messages)\n" ++
    listing "\nTop senders:\n" (r.topSenders.map standingLine) ++
    listing "\nTop lists:\n" (r.topLists.map standingLine) ++
    listing "\nSuggested gmailctl snippets:\n" (r.suggestions.archiveRules.map (· ++ "\n\n")) ++
    listing "\nLint findings:\n" (findingLines r.findings)

end InboxAudit.Report
