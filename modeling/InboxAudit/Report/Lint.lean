import InboxAudit.Report.Human

/-!
# Lint reports

The findings of an audit under a policy: a list of tokens, each of which names a kind of finding
that must not occur. Case and white space around a token do not matter, unknown tokens are ignored.
-/

namespace InboxAudit
set_option autoImplicit false

open Analysis (Findings DeadRule)
open Text (strip lowerCase pieces)

/-- The findings of an audit with its window and the size of its sample. -/
structure LintReport where
  window : Window
  total : Nat
  findings : Findings
  deriving Repr, DecidableEq

/-- A kind of finding. -/
inductive FailOn where
  | dead
  | conflict
  | missingLabel
  deriving Repr, DecidableEq

/-- The token of a kind. -/
def FailOn.token : FailOn → String
  | .dead => "dead"
  | .conflict => "conflict"
  | .missingLabel => "missing-label"

/-- All kinds. -/
def FailOn.all : List FailOn := [.dead, .conflict, .missingLabel]

/-- A token without white space at its ends, in lower case. -/
def FailOn.canonical (token : String) : String :=
  String.ofList (lowerCase (strip token.toList))

/-- The kind that a token names. -/
def FailOn.ofToken? (token : String) : Option FailOn :=
  FailOn.all.find? (·.token = FailOn.canonical token)

/-- The tokens of a policy written on one line, between commas. -/
def FailOn.parsePolicy (policy : String) : List String :=
  ((pieces (· = ',') policy.toList).map fun part => FailOn.canonical (String.ofList part)).filter (· ≠ "")

namespace LintReport

/-- There are findings of a kind. -/
def has (r : LintReport) : FailOn → Bool
  | .dead => !r.findings.deadRules.isEmpty
  | .conflict => !r.findings.conflicts.isEmpty
  | .missingLabel => !r.findings.missingLabels.isEmpty

/-- The policy is broken: a token names a kind that occurs. -/
def fails (r : LintReport) (policy : List String) : Bool :=
  policy.any fun token => (FailOn.ofToken? token).any r.has

/-- The dead rules in ascending order of their names, those of one name as they came. -/
def sortedDeadRules (rules : List DeadRule) : List DeadRule :=
  rules.mergeSort fun a b => decide (a.name ≤ b.name)

/-- The findings as text, sorted so that equal findings give equal text. -/
def summary (r : LintReport) : String :=
  let findings := r.findings
  "gmail-audit lint — window " ++ r.window.label ++ " (" ++ toString r.total ++ " messages checked)\n" ++
    if findings.isEmpty then "no findings\n"
    else
      Report.listing "dead rules:\n"
          ((sortedDeadRules findings.deadRules).map fun d => "  " ++ d.name ++ " — " ++ d.reason ++ "\n") ++
        Report.listing "missing labels:\n"
          ((findings.missingLabels.mergeSort (fun a b => decide (a ≤ b))).map fun name => "  " ++ name ++ "\n") ++
        Report.listing "conflicts:\n"
          (findings.conflicts.map fun c => "  " ++ ", ".intercalate c.rules ++ " — " ++ c.description ++ "\n")

end LintReport

end InboxAudit
