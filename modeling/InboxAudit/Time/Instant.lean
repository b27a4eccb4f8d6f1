import InboxAudit.Numbers.Width
import InboxAudit.Text.Blank
import InboxAudit.Text.Digits
import InboxAudit.Time.Calendar

/-!
# Instants

An instant is a number of seconds since 1970-01-01T00:00:00Z and a fraction in nanoseconds. A leap
second is the second before it with a fraction of one second or more. `write` gives the RFC 3339
text in UTC with the shortest of no, three, six or nine fraction digits that is exact. `read`
accepts any offset, and white space between the parts.
-/

namespace InboxAudit.Time
set_option autoImplicit false

open InboxAudit.Text (digitsValue isBlank)

/-- A moment in time. -/
structure Instant where
  seconds : Int
  nanos : Nat
  deriving Repr, DecidableEq

namespace Instant

/-- The instant so many seconds later, in whole nanoseconds. -/
def after (t : Instant) (seconds : Rat) : Instant :=
  let nanos := t.nanos + (seconds * 1000000000).floor
  ⟨t.seconds + nanos / 1000000000, (nanos % 1000000000).toNat⟩

/-- The seconds since 1970-01-01T00:00:00Z. -/
def toRat (t : Instant) : Rat := t.seconds + (t.nanos : Rat) / 1000000000

/-- The decimal digits of a number, with zeros in front up to a width. -/
def padded (width n : Nat) : List Char :=
  let digits := (toString n).toList
  List.replicate (width - digits.length) '0' ++ digits

/-- A year: four digits, and a sign outside of 0 to 9999. -/
def writeYear (year : Int) : List Char :=
  if 0 ≤ year ∧ year ≤ 9999 then padded 4 year.toNat
  else (if year < 0 then '-' else '+') :: padded 4 year.natAbs

/-- A fraction of a second, with its point. -/
def writeFraction (nanos : Nat) : List Char :=
  if nanos = 0 then []
  else if nanos % 1000000 = 0 then '.' :: padded 3 (nanos / 1000000)
  else if nanos % 1000 = 0 then '.' :: padded 6 (nanos / 1000)
  else '.' :: padded 9 nanos

/-- The RFC 3339 text of an instant in UTC. -/
def write (t : Instant) : String :=
  let date := Date.ofDays (t.seconds / 86400)
  let second := (t.seconds % 86400).toNat
  let leap := t.nanos / 1000000000
  String.ofList (writeYear date.year ++ '-' :: padded 2 date.month ++ '-' :: padded 2 date.day ++
    'T' :: padded 2 (second / 3600) ++ ':' :: padded 2 (second / 60 % 60) ++
    ':' :: padded 2 (second % 60 + leap) ++ writeFraction (t.nanos % 1000000000) ++ ['Z'])

/-- The text without leading white space. -/
def skipBlank (s : List Char) : List Char := s.dropWhile isBlank

/-- One or more digits, no more than a limit, and the rest. -/
def digits? (limit : Nat) (s : List Char) : Option (List Char × List Char) :=
  match (s.take limit).takeWhile Char.isDigit with
  | [] => none
  | ds => some (ds, s.drop ds.length)

/-- A number of at most two digits after white space, and the rest. -/
def short? (s : List Char) : Option (Nat × List Char) :=
  (digits? 2 (skipBlank s)).map fun (ds, rest) => (digitsValue 10 ds, rest)

/-- A year after white space: four digits at most, or any number after a sign. -/
def year? (s : List Char) : Option (Int × List Char) :=
  match skipBlank s with
  | '-' :: rest => (digits? rest.length rest).map fun (ds, rest) => (-(digitsValue 10 ds : Int), rest)
  | '+' :: rest => (digits? rest.length rest).map fun (ds, rest) => ((digitsValue 10 ds : Int), rest)
  | rest => (digits? 4 rest).map fun (ds, rest) => ((digitsValue 10 ds : Int), rest)

/-- A mark after white space, and the rest. -/
def mark? (mark : Char) (s : List Char) : Option (List Char) :=
  match skipBlank s with
  | c :: rest => if c = mark then some rest else none
  | [] => none

/-- The fraction after a point in nanoseconds, digits past the ninth dropped. -/
def fraction? (s : List Char) : Option (Nat × List Char) :=
  match s with
  | '.' :: rest =>
    (digits? 9 rest).map fun (ds, rest) =>
      (digitsValue 10 ds * Numbers.tens (9 - ds.length), rest.dropWhile Char.isDigit)
  | _ => some (0, s)

/-- Two digits of an offset, the first of them at most `high`. -/
def offsetPart? (high : Nat) (s : List Char) : Option (Nat × List Char) :=
  match s with
  | a :: b :: rest =>
    if a.isDigit ∧ b.isDigit ∧ a.toNat - 48 ≤ high then some (digitsValue 10 [a, b], rest) else none
  | _ => none

/-- Hours and minutes of an offset in seconds. -/
def offsetSize? (s : List Char) : Option (Int × List Char) := do
  let (hours, rest) ← offsetPart? 9 s
  let (minutes, rest) ← offsetPart? 5 (rest.dropWhile fun c => c = ':' || isBlank c)
  return (hours * 3600 + minutes * 60, rest)

/-- An offset from UTC in seconds. -/
def offset? (s : List Char) : Option (Int × List Char) :=
  match s with
  | 'Z' :: rest => some (0, rest)
  | 'z' :: rest => some (0, rest)
  | '+' :: rest => offsetSize? rest
  | '-' :: rest => (offsetSize? rest).map fun (n, rest) => (-n, rest)
  | '\u2212' :: rest => (offsetSize? rest).map fun (n, rest) => (-n, rest)
  | _ =>
    if (s.take 3).map Char.toLower = ['u', 't', 'c'] then some (0, s.drop 3) else none

/-- The years in which an instant may lie. -/
def inCalendar (year : Int) : Bool := decide (-262143 ≤ year) && decide (year ≤ 262142)

/-- The instant of an RFC 3339 text. -/
def read (s : String) : Option Instant := do
  let (year, rest) ← year? s.toList
  let (month, rest) ← short? (← mark? '-' rest)
  let (day, rest) ← short? (← mark? '-' rest)
  let rest ← match rest with
    | c :: rest => if c = 'T' ∨ c = 't' ∨ c = ' ' then some rest else none
    | [] => none
  let (hour, rest) ← short? rest
  let (minute, rest) ← short? (← mark? ':' rest)
  let (second, rest) ← short? (← mark? ':' rest)
  let (nanos, rest) ← fraction? rest
  let (offset, rest) ← offset? (skipBlank rest)
  let date : Date := ⟨year, month, day⟩
  if skipBlank rest ≠ [] ∨ !date.isValid ∨ !inCalendar year ∨ hour > 23 ∨ minute > 59 ∨ second > 60 ∨
      offset.natAbs ≥ 86400 then none
  else
    let leap := if second = 60 then 1 else 0
    let seconds : Int := date.toDays * 86400 + ((hour * 3600 + minute * 60 + second - leap : Nat) : Int) - offset
    if inCalendar (Date.ofDays (seconds / 86400)).year then
      return ⟨seconds, nanos + leap * 1000000000⟩
    else none

end Instant

end InboxAudit.Time
