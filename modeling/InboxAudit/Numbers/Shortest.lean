import InboxAudit.Numbers.Binary64

/-!
# The shortest decimal

The decimal with the fewest digits that is read back as a given binary fraction; of two such the
nearer one, and of two equally near the even one. Decimals are tried on grids of one digit, two
digits and so on up to seventeen, each time the two neighbours of the number on the grid.
-/

namespace InboxAudit.Numbers
set_option autoImplicit false

/-- The number `digits * 10 ^ exponent`. -/
structure Decimal where
  digits : Nat
  exponent : Int
  deriving Repr, DecidableEq

/-- The decimal as a fraction. -/
def Decimal.ratio (d : Decimal) : Nat × Nat :=
  if 0 ≤ d.exponent then (d.digits * tens d.exponent.toNat, 1) else (d.digits, tens d.exponent.natAbs)

/-- The decimal without zeros at its end. -/
def Decimal.trimmed (fuel : Nat) (d : Decimal) : Decimal :=
  match fuel with
  | 0 => d
  | fuel + 1 =>
    if d.digits ≠ 0 ∧ d.digits % 10 = 0 then Decimal.trimmed fuel ⟨d.digits / 10, d.exponent + 1⟩ else d

namespace Binary64

/-- Four times the significand, and the distances in these units to where rounding changes. -/
def margins (x : Binary64) : Nat × Nat × Nat :=
  let lower := if x.significand = bound 52 ∧ x.exponent > minExponent then 1 else 2
  (4 * x.significand, lower, 2)

/-- The decimal is read back as the number. -/
def isRoundedFrom (x : Binary64) (d : Decimal) : Bool :=
  let (middle, lower, upper) := x.margins
  let (above, below) := twos (x.exponent - 2)
  let (a, b) := d.ratio
  let place := a * below
  let unit := b * above
  let low := (middle - lower) * unit
  let high := (middle + upper) * unit
  if x.significand % 2 = 0 then low ≤ place && place ≤ high else low < place && place < high

/-- The number of the power of ten that the number begins at, found from an estimate upwards. -/
def leading (fuel : Nat) (x : Binary64) (estimate : Int) : Int :=
  match fuel with
  | 0 => estimate
  | fuel + 1 =>
    let (a, b) := x.ratio
    let (c, d) := Decimal.ratio ⟨1, estimate + 1⟩
    if c * b ≤ a * d then leading fuel x (estimate + 1) else estimate

/-- A power of ten that the number does not lie below. -/
def leadingEstimate (x : Binary64) : Int :=
  ((x.exponent + Nat.log2 x.significand) * 30103) / 100000 - 1

/-- The decimals next to the number on a grid: the lower one, the upper one, and how the middle
between them lies to the number. -/
def neighbours (x : Binary64) (exponent : Int) : Decimal × Decimal × Ordering :=
  let (a, b) := x.ratio
  let (c, d) := Decimal.ratio ⟨1, exponent⟩
  let place := a * d
  let unit := b * c
  let whole := place / unit
  (⟨whole, exponent⟩, ⟨whole + 1, exponent⟩, compare (2 * (place % unit)) unit)

/-- The decimal of a grid that is read back as the number. -/
def onGrid? (x : Binary64) (exponent : Int) : Option Decimal :=
  let (low, high, order) := x.neighbours exponent
  match x.isRoundedFrom low && low.digits ≠ 0, x.isRoundedFrom high with
  | true, true =>
    match order with
    | .lt => some low
    | .gt => some high
    | .eq => some (if low.digits % 2 = 0 then low else high)
  | true, false => some low
  | false, true => some high
  | false, false => none

/-- The shortest decimal of so many digits and more. -/
def shortestFrom (x : Binary64) (start : Int) : (more : Nat) → (digits : Nat) → Decimal
  | 0, digits => (x.neighbours (start - digits + 1)).1
  | more + 1, digits =>
    match x.onGrid? (start - digits + 1) with
    | some d => d
    | none => shortestFrom x start more (digits + 1)

/-- The shortest decimal. -/
def shortest (x : Binary64) : Decimal :=
  if x.significand = 0 then ⟨0, 0⟩
  else (x.shortestFrom (x.leading 4 x.leadingEstimate) 17 1).trimmed 20

end Binary64

end InboxAudit.Numbers
