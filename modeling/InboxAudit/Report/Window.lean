/-!
# Lookback windows

A window is a length of time in seconds and nanoseconds. The search query that covers it counts
whole days, rounded up and never less than one; its label is in the largest unit of days, hours
and seconds that divides the seconds.
-/

namespace InboxAudit
set_option autoImplicit false

/-- A length of time. -/
structure Window where
  seconds : Nat
  nanos : Nat
  deriving Repr, DecidableEq

namespace Window

/-- A window of whole days. -/
def ofDays (days : Nat) : Window := ⟨days * 86400, 0⟩

/-- The window has no length. -/
def isZero (w : Window) : Bool := w.seconds = 0 && w.nanos = 0

/-- The days that cover the window. -/
def days (w : Window) : Nat :=
  let partialDay := if w.seconds % 86400 ≠ 0 ∨ w.nanos > 0 then 1 else 0
  max (w.seconds / 86400 + partialDay) 1

/-- The search query that covers the window. -/
def query (w : Window) : String := "newer_than:" ++ toString w.days ++ "d"

/-- The length of the window in words. -/
def label (w : Window) : String :=
  if w.seconds > 0 ∧ w.seconds % 86400 = 0 then toString (w.seconds / 86400) ++ "d"
  else if w.seconds > 0 ∧ w.seconds % 3600 = 0 then toString (w.seconds / 3600) ++ "h"
  else toString w.seconds ++ "s"

end Window

end InboxAudit
