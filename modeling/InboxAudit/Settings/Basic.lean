import InboxAudit.Audit.Options
import InboxAudit.Report.Lint

/-!
# Settings

What a user may decide once for all runs, in four sections: how the mailbox is sampled, what a lint
run must not find, where the filters come from, and how fast the mailbox is asked. Every setting
has a default. The command line may give another window and another length of the rankings.
-/

namespace InboxAudit
set_option autoImplicit false

/-- How the mailbox is sampled. -/
structure Settings.Sampling where
  windowDays : Nat
  topN : Nat
  pageSize : Nat
  headers : List String
  deriving Repr, DecidableEq

/-- How far a lint run looks back, and the kinds of findings that fail it. -/
structure Settings.Linting where
  windowDays : Nat
  failOn : List String
  deriving Repr, DecidableEq

/-- Where the filters come from: from a file if there is one, else from a program. -/
structure Settings.Filters where
  enabled : Bool
  binary : String
  configDir : Option String
  exportFile : Option String
  deriving Repr, DecidableEq

/-- How fast the mailbox is asked. -/
structure Settings.Rate where
  requestsPerSecond : Nat
  burst : Nat
  deriving Repr, DecidableEq

/-- The settings of all runs. -/
structure Settings where
  audit : Settings.Sampling
  lint : Settings.Linting
  filters : Settings.Filters
  rate : Settings.Rate
  deriving Repr, DecidableEq

namespace Settings

/-- The default sampling. -/
def Sampling.default : Sampling := ⟨60, 30, Audit.Options.maxPageSize, Mail.defaultHeaders⟩

/-- The default of a lint run: every kind of finding fails it. -/
def Linting.default : Linting := ⟨30, FailOn.all.map FailOn.token⟩

/-- The program that compiles filters. -/
def defaultBinary : String := "gmailctl"

/-- The default source of the filters. -/
def Filters.default : Filters := ⟨true, defaultBinary, none, none⟩

/-- The default rate. -/
def Rate.default : Rate := ⟨10, 10⟩

/-- The settings of a user who has decided nothing. -/
def default : Settings := ⟨.default, .default, .default, .default⟩

/-- The options of an audit run. -/
def auditOptions (s : Settings) (days topN : Option Nat) : Audit.Options where
  window := .ofDays (days.getD s.audit.windowDays)
  topN := topN.getD s.audit.topN
  pageSize := s.audit.pageSize
  headers := s.audit.headers

/-- The options of a lint run: those of an audit run but for the window. -/
def lintOptions (s : Settings) (days : Option Nat) : Audit.Options :=
  { s.auditOptions none none with window := .ofDays (days.getD s.lint.windowDays) }

end Settings

end InboxAudit
