import InboxAudit.Numbers.Width
import InboxAudit.Text.Blank
import InboxAudit.Text.Digits
import InboxAudit.Time.Calendar
import InboxAudit.Toml.Value

/-!
# TOML scalars

Truth values, numbers, dates and times, each written without quotes. A scalar is a run of letters,
digits and a few marks; only a date may be followed by a space and a time. Digits of a number may
be grouped by underscores, one between two digits.
-/

namespace InboxAudit.Toml
set_option autoImplicit false

open InboxAudit.Numbers (bound tens)
open InboxAudit.Text (digitsValue isDigitOf pieces splitFirst?)

/-- A character of a scalar. -/
def isScalarChar (c : Char) : Bool :=
  c.isAlphanum || c = '+' || c = '-' || c = '_' || c = '.' || c = ':'

/-- One or more digits of a base, without the underscores between them. -/
def digits? (base : Nat) (s : List Char) : Option (List Char) :=
  let groups := pieces (· = '_') s
  if groups.all fun g => g ≠ [] && g.all (isDigitOf base) then some groups.flatten else none

/-- The sign of a number, negative or not, and what follows it. -/
def splitSign : List Char → Bool × List Char
  | '+' :: rest => (false, rest)
  | '-' :: rest => (true, rest)
  | s => (false, s)

/-- The digits of a whole number; no zero stands in front of other digits. -/
def wholeDigits? (s : List Char) : Option (List Char) :=
  if s.head? = some '0' ∧ s.length > 1 then none else digits? 10 s

/-- An integer that a document can hold. -/
def bounded? (n : Int) : Option Toml := if isInteger n then some (.integer n) else none

/-- A whole number: in decimal with a sign, or in another base without one. -/
def integer? : List Char → Option Toml
  | '0' :: 'x' :: rest => (digits? 16 rest).bind fun ds => bounded? (digitsValue 16 ds)
  | '0' :: 'o' :: rest => (digits? 8 rest).bind fun ds => bounded? (digitsValue 8 ds)
  | '0' :: 'b' :: rest => (digits? 2 rest).bind fun ds => bounded? (digitsValue 2 ds)
  | s =>
    let (negative, rest) := splitSign s
    (wholeDigits? rest).bind fun ds =>
      let n : Int := digitsValue 10 ds
      bounded? (if negative then -n else n)

/-- The number `digits * 10 ^ exponent` is too large for a fraction of 64 bits. -/
def overflows (digits : List Char) (exponent : Int) : Bool :=
  let significant := digits.dropWhile (· = '0')
  let magnitude : Int := significant.length + exponent
  if significant = [] ∨ magnitude < 300 then false
  else if magnitude > 320 then true
  else
    let n := digitsValue 10 significant
    let limit := bound 1024 - bound 970
    if 0 ≤ exponent then limit ≤ n * tens exponent.toNat else limit * tens exponent.natAbs ≤ n

/-- A number with a fraction, an exponent or both. -/
def float? (s : List Char) : Option Toml := do
  let (negative, rest) := splitSign s
  if rest = "inf".toList ∨ rest = "nan".toList then return .float (String.ofList s)
  let (mantissa, power) := match splitFirst? (fun c => c = 'e' || c = 'E') rest with
    | some (mantissa, power) => (mantissa, some power)
    | none => (rest, none)
  let (whole, fraction) := match splitFirst? (· = '.') mantissa with
    | some (whole, fraction) => (whole, some fraction)
    | none => (mantissa, none)
  if power.isNone ∧ fraction.isNone then none
  let whole ← wholeDigits? whole
  let fraction ← match fraction with
    | some fraction => digits? 10 fraction
    | none => some []
  let exponent : Int ← match power with
    | some power =>
      let (negative, rest) := splitSign power
      (digits? 10 rest).map fun ds => if negative then -(digitsValue 10 ds : Int) else digitsValue 10 ds
    | none => some 0
  if !negative ∧ overflows (whole ++ fraction) (exponent - fraction.length) then none
  return .float (String.ofList s)

/-- The value of exactly so many decimal digits. -/
def fixed? (width : Nat) (s : List Char) : Option Nat :=
  if s.length = width ∧ s.all Char.isDigit then some (digitsValue 10 s) else none

/-- A date. -/
def isDate (s : List Char) : Bool :=
  match pieces (· = '-') s with
  | [year, month, day] =>
    match fixed? 4 year, fixed? 2 month, fixed? 2 day with
    | some year, some month, some day => (⟨year, month, day⟩ : Time.Date).isValid
    | _, _, _ => false
  | _ => false

/-- Hours and minutes. -/
def isClock (hours minutes : List Char) : Bool :=
  (fixed? 2 hours).any (· ≤ 23) && (fixed? 2 minutes).any (· ≤ 59)

/-- A time of day, with or without a fraction of its seconds. -/
def isTime (s : List Char) : Bool :=
  match pieces (· = ':') s with
  | [hours, minutes, seconds] =>
    isClock hours minutes && (fixed? 2 (seconds.take 2)).any (· ≤ 60) &&
      match seconds.drop 2 with
      | [] => true
      | '.' :: fraction => fraction ≠ [] && fraction.all Char.isDigit
      | _ => false
  | _ => false

/-- An offset from the time of Greenwich, after its sign. -/
def isOffset (s : List Char) : Bool :=
  match pieces (· = ':') s with
  | [hours, minutes] => isClock hours minutes
  | _ => false

/-- A time of day, with or without an offset. -/
def isZonedTime (s : List Char) : Bool :=
  isTime s ||
    match s.getLast? with
    | some 'Z' => isTime s.dropLast
    | some 'z' => isTime s.dropLast
    | _ =>
      match splitFirst? (fun c => c = '+' || c = '-') s with
      | some (clock, offset) => isTime clock && isOffset offset
      | none => false

/-- A date, a time of day, or both in one word. -/
def time? (s : List Char) : Option Toml :=
  let found := isDate s || isTime s ||
    (isDate (s.take 10) && ((s.drop 10).head? == some 'T' || (s.drop 10).head? == some 't') &&
      isZonedTime (s.drop 11))
  if found then some (.time (String.ofList s)) else none

/-- The scalar that one word spells. -/
def scalar? (s : List Char) : Option Toml :=
  if s = "true".toList then some (.boolean true)
  else if s = "false".toList then some (.boolean false)
  else (time? s).or ((float? s).or (integer? s))

/-- A scalar at the start of a text, and the rest. -/
def readScalar (s : List Char) : Option (Toml × List Char) :=
  let word := s.takeWhile isScalarChar
  let rest := s.dropWhile isScalarChar
  match isDate word, rest with
  | true, ' ' :: c :: more =>
    if c.isDigit then
      let time := (c :: more).takeWhile isScalarChar
      if isZonedTime time then
        some (.time (String.ofList (word ++ ' ' :: time)), (c :: more).dropWhile isScalarChar)
      else none
    else some (.time (String.ofList word), rest)
  | _, _ => (scalar? word).map (·, rest)

end InboxAudit.Toml
