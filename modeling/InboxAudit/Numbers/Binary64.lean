import InboxAudit.Numbers.Width

/-!
# Binary fractions of 64 bits

Numbers without a sign that 64 bits can hold: a significand below `2 ^ 53` times a power of two. The
results of multiplication and division are rounded to the nearest such number, a tie to the
even significand; results that are too large do not exist.
-/

namespace InboxAudit.Numbers
set_option autoImplicit false

/-- The number `significand * 2 ^ exponent`. -/
structure Binary64 where
  significand : Nat
  exponent : Int
  deriving Repr, DecidableEq

namespace Binary64

/-- The least exponent. -/
def minExponent : Int := -1074

/-- The greatest exponent. -/
def maxExponent : Int := 971

/-- No number. -/
def zero : Binary64 := ⟨0, minExponent⟩

/-- The power of two with an exponent, above and below a fraction line. -/
def twos (exponent : Int) : Nat × Nat :=
  if 0 ≤ exponent then (bound exponent.toNat, 1) else (1, bound exponent.natAbs)

/-- The whole number nearest to a fraction, the even one of two. -/
def nearest (numerator denominator : Nat) : Nat :=
  let whole := numerator / denominator
  let rest := 2 * (numerator % denominator)
  if rest < denominator ∨ (rest = denominator ∧ whole % 2 = 0) then whole else whole + 1

/-- The fraction in units of a power of two, rounded. -/
def inUnits (numerator denominator : Nat) (exponent : Int) : Nat :=
  let (above, below) := twos exponent
  nearest (numerator * below) (denominator * above)

/-- The exponent for a fraction: with it the significand has 53 bits, or it is the least one. -/
def exponentFor (numerator denominator : Nat) : Int :=
  let estimate : Int := Nat.log2 numerator - Nat.log2 denominator - 52
  let (above, below) := twos estimate
  let exponent := if numerator * below < bound 52 * (denominator * above) then estimate - 1 else estimate
  if exponent < minExponent then minExponent else exponent

/-- The number nearest to a fraction. -/
def ofRatio? (numerator denominator : Nat) : Option Binary64 :=
  if numerator = 0 then some zero
  else
    let exponent := exponentFor numerator denominator
    let significand := inUnits numerator denominator exponent
    let rounded : Binary64 :=
      if significand = bound 53 then ⟨bound 52, exponent + 1⟩ else ⟨significand, exponent⟩
    if rounded.exponent ≤ maxExponent then some rounded else none

/-- The number as a fraction. -/
def ratio (x : Binary64) : Nat × Nat :=
  let (above, below) := twos x.exponent
  (x.significand * above, below)

/-- The product, rounded. -/
def times? (x y : Binary64) : Option Binary64 :=
  let (a, b) := x.ratio
  let (c, d) := y.ratio
  ofRatio? (a * c) (b * d)

/-- The quotient, rounded. -/
def over? (x y : Binary64) : Option Binary64 :=
  let (a, b) := x.ratio
  let (c, d) := y.ratio
  ofRatio? (a * d) (b * c)

/-- The greatest power of ten has so many zeros. -/
def maxTens : Nat := 308

/-- A power of ten, rounded. -/
def powerOfTen? (zeros : Nat) : Option Binary64 := ofRatio? (tens zeros) 1

/-- The number divided so many times by the greatest power of ten, each time rounded. -/
def overMaxTens? (x : Binary64) : (times : Nat) → Option Binary64
  | 0 => some x
  | times + 1 =>
    if x.significand = 0 then some x
    else ((powerOfTen? maxTens).bind x.over?).bind fun y => y.overMaxTens? times

/-- The number divided by a power of ten, in steps that each round. -/
def overTens? (x : Binary64) (zeros : Nat) : Option Binary64 := do
  let times := (zeros - 1) / maxTens
  (← x.overMaxTens? times).over? (← powerOfTen? (zeros - times * maxTens))

/-- A whole number times a power of ten: the whole number is rounded, then the product. -/
def scaled? (n : Nat) (exponent : Int) : Option Binary64 := do
  let x ← ofRatio? n 1
  if exponent < 0 then x.overTens? exponent.natAbs
  else if exponent.toNat ≤ maxTens then x.times? (← powerOfTen? exponent.toNat)
  else if n = 0 then some x
  else none

end Binary64

end InboxAudit.Numbers
