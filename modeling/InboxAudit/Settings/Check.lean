import InboxAudit.Settings.Basic

/-!
# Checking settings

Settings are usable when windows are between a day and a year long, rankings have rows, pages have
a size that the mailbox allows, headers have names, every kind of finding is known, filters come
from somewhere, and the rate is one that the mailbox allows. The first fault in this order counts.
-/

namespace InboxAudit.Settings
set_option autoImplicit false

open Text (isBlankText)

/-- The longest window in days. -/
def maxWindowDays : Nat := 365

/-- The requests per second that a mailbox allows. -/
def maxRequestsPerSecond : Nat := 250

/-- Why settings are not usable. -/
inductive Fault where
  | windowTooShort (setting : String)
  | windowTooLong (setting : String)
  | noRows
  | pageSize
  | blankHeader
  | unknownKind (token : String)
  | noProgram
  | requestsPerSecond
  | noBurst
  deriving Repr, DecidableEq

/-- The fault in words. -/
def Fault.message : Fault → String
  | .windowTooShort setting => setting ++ " must be at least 1"
  | .windowTooLong setting => setting ++ " cannot exceed " ++ toString maxWindowDays ++ " (1 year)"
  | .noRows => "audit.top_n must be greater than 0"
  | .pageSize => "audit.page_size must be between 1 and " ++ toString Audit.Options.maxPageSize
  | .blankHeader => "audit.headers cannot contain empty strings"
  | .unknownKind token =>
    "Invalid lint.fail_on entry: '" ++ token ++ "'. Must be one of " ++
      ", ".intercalate (FailOn.all.map FailOn.token)
  | .noProgram => "gmailctl.binary cannot be empty when gmailctl is enabled"
  | .requestsPerSecond =>
    "rate.requests_per_second must be between 1 and " ++ toString maxRequestsPerSecond
  | .noBurst => "rate.burst must be greater than 0"

/-- The fault of a window. -/
def windowFault? (setting : String) (days : Nat) : Option Fault :=
  if days = 0 then some (.windowTooShort setting)
  else if days > maxWindowDays then some (.windowTooLong setting)
  else none

/-- The fault of the sampling. -/
def Sampling.fault? (s : Sampling) : Option Fault :=
  if s.topN = 0 then some .noRows
  else if s.pageSize = 0 ∨ s.pageSize > Audit.Options.maxPageSize then some .pageSize
  else if s.headers.any isBlankText then some .blankHeader
  else none

/-- The fault of what a lint run must not find: a token that names no kind. -/
def Linting.fault? (s : Linting) : Option Fault :=
  (s.failOn.find? fun token => (FailOn.ofToken? token).isNone).map .unknownKind

/-- The fault of the source of the filters. -/
def Filters.fault? (s : Filters) : Option Fault :=
  if s.enabled ∧ s.exportFile = none ∧ isBlankText s.binary then some .noProgram else none

/-- The fault of the rate. -/
def Rate.fault? (s : Rate) : Option Fault :=
  if s.requestsPerSecond = 0 ∨ s.requestsPerSecond > maxRequestsPerSecond then
    some .requestsPerSecond
  else if s.burst = 0 then some .noBurst
  else none

/-- The first fault of some settings. -/
def fault? (s : Settings) : Option Fault :=
  (windowFault? "audit.window_days" s.audit.windowDays).or
    ((windowFault? "lint.window_days" s.lint.windowDays).or
      (s.audit.fault?.or (s.lint.fault?.or (s.filters.fault?.or s.rate.fault?))))

/-- Settings without a fault are usable. -/
def check (s : Settings) : Except AuditError Unit :=
  match s.fault? with
  | some fault => .error (.config fault.message)
  | none => .ok ()

end InboxAudit.Settings
