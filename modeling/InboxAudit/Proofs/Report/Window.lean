import InboxAudit.Numbers.Width
import InboxAudit.Settings.Basic
import Mathlib.Order.Bounds.Basic

/-!
# What a window covers

The days of a window are the fewest, but one at least, that are as long as the window (`Window.isLeast_days`). A
window of whole days is covered by exactly these and labelled with them, so the days that a user gives are the days
that are asked for and shown (`query_tight`). All numbers on the way fit into words of 64 bits: computed in words, the
days and the seconds are what they are without a bound (`Window.daysInWords?_eq`, `Window.secondsInWords?_eq`).
-/

namespace InboxAudit
set_option autoImplicit false

open Numbers (bound)

namespace Window

/-- The length of a day in nanoseconds. -/
def dayLength : Nat := 86400 * 1000000000

/-- The length of a window in nanoseconds. -/
def length (w : Window) : Nat := w.seconds * 1000000000 + w.nanos

/-- What is stored of a length of time: a word of seconds, and less than a second in nanoseconds. -/
structure IsStored (w : Window) : Prop where
  seconds : w.seconds < bound 64
  nanos : w.nanos < 1000000000

/-- A number that fits into a word of 64 bits. -/
def word? (n : Nat) : Option Nat := if n < bound 64 then some n else none

/-- The days of a window computed in words, if every number on the way fits. -/
def daysInWords? (w : Window) : Option Nat := do
  let whole ← word? (w.seconds / 86400)
  let days ← word? (whole + if w.seconds % 86400 ≠ 0 ∨ w.nanos > 0 then 1 else 0)
  word? (max days 1)

/-- The seconds of some days computed in words, if every number on the way fits. -/
def secondsInWords? (days : Nat) : Option Nat := do
  let days ← word? days
  let hours ← word? (days * 24)
  let minutes ← word? (hours * 60)
  word? (minutes * 60)

variable {w : Window} {days : Nat}

theorem word?_of_lt {n : Nat} (fits : n < bound 64) : word? n = some n := if_pos fits

theorem bound_32_eq : bound 32 = 4294967296 := rfl

theorem bound_64_eq : bound 64 = 18446744073709551616 := rfl

/-- No smaller number of days is as long as the window, and this one is. -/
theorem isLeast_days (nanos : w.nanos < 1000000000) :
    IsLeast {days | 1 ≤ days ∧ w.length ≤ days * dayLength} w.days := by
  have split := Nat.div_add_mod w.seconds 86400
  have rest := Nat.mod_lt w.seconds (by decide : 0 < 86400)
  constructor
  · refine ⟨Nat.le_max_right _ _, ?_⟩
    rw [length, dayLength, days]
    split <;> omega
  · rintro other ⟨positive, covers⟩
    rw [length, dayLength] at covers
    rw [days]
    split <;> omega

theorem daysInWords?_eq (stored : w.IsStored) : w.daysInWords? = some w.days := by
  have whole : w.seconds / 86400 + 1 < bound 64 := by
    have fits := stored.seconds
    rw [bound_64_eq] at fits ⊢
    omega
  have part : (if w.seconds % 86400 ≠ 0 ∨ w.nanos > 0 then 1 else 0) ≤ 1 := by split <;> decide
  have sum := Nat.lt_of_le_of_lt (Nat.add_le_add_left part (w.seconds / 86400)) whole
  have most := Nat.max_lt.2 ⟨sum, (by decide : 1 < bound 64)⟩
  rw [daysInWords?, word?_of_lt ((Nat.le_succ _).trans_lt whole), Option.bind_eq_bind, Option.bind_some,
    word?_of_lt sum, Option.bind_some, word?_of_lt most, days]

theorem secondsInWords?_eq (fits : days < bound 32) : secondsInWords? days = some (ofDays days).seconds := by
  rw [bound_32_eq] at fits
  have small (n : Nat) (le : n ≤ days * 86400) : word? n = some n := by
    apply word?_of_lt
    rw [bound_64_eq]
    omega
  rw [secondsInWords?, small days (by omega), Option.bind_eq_bind, Option.bind_some, small (days * 24) (by omega),
    Option.bind_some, small (days * 24 * 60) (by omega), Option.bind_some, small (days * 24 * 60 * 60) (by omega),
    ofDays, Nat.mul_assoc, Nat.mul_assoc]

theorem isStored_ofDays (fits : days < bound 32) : (ofDays days).IsStored where
  seconds := by
    rw [bound_32_eq] at fits
    rw [ofDays, bound_64_eq]
    dsimp only
    omega
  nanos := (by decide : 0 < 1000000000)

/-- The days that cover some days are these days. -/
theorem days_ofDays (positive : 1 ≤ days) : (ofDays days).days = days := by
  have least : IsLeast {other | 1 ≤ other ∧ (ofDays days).length ≤ other * dayLength} days := by
    have length : (ofDays days).length = days * dayLength := by
      rw [Window.length, ofDays, dayLength, Nat.add_zero, Nat.mul_assoc]
    refine ⟨⟨positive, Nat.le_of_eq length⟩, fun other ⟨_, covers⟩ => ?_⟩
    rw [length] at covers
    exact Nat.le_of_mul_le_mul_right covers (by decide)
  exact (isLeast_days (by decide : 0 < 1000000000)).unique least

theorem label_ofDays (positive : 1 ≤ days) : (ofDays days).label = toString days ++ "d" := by
  have whole : (ofDays days).seconds > 0 ∧ (ofDays days).seconds % 86400 = 0 :=
    ⟨Nat.mul_pos positive (by decide), Nat.mul_mod_left days 86400⟩
  have count : (ofDays days).seconds / 86400 = days := Nat.mul_div_cancel days (by decide)
  rw [label, if_pos whole, count]

/-- The window is asked for and shown as so many days, and its seconds are computed in words. -/
structure IsDays (w : Window) (days : Nat) : Prop where
  query : w.query = "newer_than:" ++ toString days ++ "d"
  label : w.label = toString days ++ "d"
  words : secondsInWords? days = some w.seconds
  stored : w.IsStored

theorem isDays_ofDays (positive : 1 ≤ days) (fits : days < bound 32) : (ofDays days).IsDays days where
  query := by rw [query, days_ofDays positive]
  label := label_ofDays positive
  words := secondsInWords?_eq fits
  stored := isStored_ofDays fits

end Window

/-- The query of a window asks for the fewest days, but one at least, that are as long as the window, and these are
computed in words of 64 bits without an overflow. The days that are given on the command line, or else those of the
settings, are the days that an audit or a lint run asks for and shows. -/
theorem query_tight :
    (∀ w : Window, w.IsStored → ∃ days,
      IsLeast {days | 1 ≤ days ∧ w.length ≤ days * Window.dayLength} days ∧
        w.query = "newer_than:" ++ toString days ++ "d" ∧ w.daysInWords? = some days) ∧
    ∀ (s : Settings) (given topN : Option Nat) (days : Nat), 1 ≤ days → days < bound 32 →
      (given.getD s.audit.windowDays = days → (s.auditOptions given topN).window.IsDays days) ∧
      (given.getD s.lint.windowDays = days → (s.lintOptions given).window.IsDays days) := by
  constructor
  · intro w stored
    exact ⟨w.days, Window.isLeast_days stored.nanos, rfl, Window.daysInWords?_eq stored⟩
  · intro s given topN days positive fits
    have whole := Window.isDays_ofDays positive fits
    constructor
    · rintro rfl
      exact whole
    · rintro rfl
      exact whole

/-- The longest window that is stored, and the most days that are given. -/
theorem query_tight_longest :
    let longest : Window := ⟨bound 64 - 1, 999999999⟩
    let most := bound 32 - 1
    longest.IsStored ∧ longest.daysInWords? = some 213503982334602 ∧ 1 ≤ most ∧ most < bound 32 ∧
      (Settings.default.lintOptions (some most)).window.IsDays most := by
  intro longest most
  have stored : longest.IsStored := ⟨by decide, by decide⟩
  have positive : 1 ≤ most := by decide
  have fits : most < bound 32 := by decide
  obtain ⟨covers, options⟩ := query_tight
  obtain ⟨days, least, -, words⟩ := covers longest stored
  have count : longest.days = 213503982334602 := by decide
  have same : days = longest.days := least.unique (Window.isLeast_days stored.nanos)
  have asked := (options .default (some most) none most positive fits).2 rfl
  exact ⟨stored, by rw [words, same, count], positive, fits, asked⟩

end InboxAudit
