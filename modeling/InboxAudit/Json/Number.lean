import InboxAudit.Json.Value
import InboxAudit.Numbers.Shortest
import InboxAudit.Text.Blank
import InboxAudit.Text.Digits

/-!
# Canonical numbers

Whole numbers of 64 bits are kept; every other number stands for a binary fraction, and is written
as its shortest decimal: in full up to sixteen places before the point and five zeros after it,
with an exponent beyond. Of a literal only as many digits count as 64 bits hold. A number that is
too large for a fraction has no canonical form.
-/

namespace InboxAudit.Json
set_option autoImplicit false

open Numbers (Binary64 Decimal bound)
open Text (digitValue digitsValue splitFirst?)

/-- The number of some digits as far as 64 bits hold it, and how many digits are left over. -/
def takeDigits (n : Nat) : List Char → Nat × Nat
  | [] => (n, 0)
  | c :: rest =>
    if n * 10 + digitValue c < bound 64 then takeDigits (n * 10 + digitValue c) rest
    else (n, rest.length + 1)

/-- The parts of a literal without its sign: digits before the point, digits after it, and the
exponent. -/
def literalParts (s : List Char) : List Char × List Char × Int :=
  let (mantissa, power) := (splitFirst? (fun c => c = 'e' || c = 'E') s).getD (s, [])
  let (whole, fraction) := (splitFirst? (· = '.') mantissa).getD (mantissa, [])
  let exponent : Int := match power with
    | '-' :: digits => -(digitsValue 10 digits : Int)
    | '+' :: digits => digitsValue 10 digits
    | digits => digitsValue 10 digits
  (whole, fraction, exponent)

/-- The binary fraction of a literal without its sign. -/
def literalFraction? (s : List Char) : Option Binary64 :=
  let (whole, fraction, exponent) := literalParts s
  let (n, left) := takeDigits 0 whole
  let (m, unused) := takeDigits n fraction
  Binary64.scaled? m (left - (fraction.length - unused : Nat) + exponent)

/-- The digits of a decimal with its point, in full or with an exponent. -/
def writeDecimal (d : Decimal) : List Char :=
  let digits := (toString d.digits).toList
  let point : Int := digits.length + d.exponent
  if 0 ≤ d.exponent ∧ point ≤ 16 then
    digits ++ List.replicate d.exponent.toNat '0' ++ ['.', '0']
  else if 0 < point ∧ point ≤ 16 then
    digits.take point.toNat ++ '.' :: digits.drop point.toNat
  else if -5 < point ∧ point ≤ 0 then
    '0' :: '.' :: (List.replicate point.natAbs '0' ++ digits)
  else
    let fraction := if digits.length = 1 then [] else '.' :: digits.drop 1
    digits.take 1 ++ fraction ++ 'e' :: (toString (point - 1)).toList

/-- The canonical form of a literal. -/
def canonicalLiteral? (s : List Char) : Option Number :=
  let (sign, magnitude) : List Char × List Char := match s with
    | '-' :: rest => (['-'], rest)
    | s => ([], s)
  (literalFraction? magnitude).map fun x =>
    .decimal (String.ofList (sign ++ writeDecimal x.shortest))

/-- The canonical form of a number. -/
def Number.canonical? : Number → Option Number
  | .integer n =>
    if (0 ≤ n ∧ n < (bound 64 : Int)) ∨ Numbers.isSigned 64 n then some (.integer n)
    else canonicalLiteral? (toString n).toList
  | .decimal literal => canonicalLiteral? literal.toList

end InboxAudit.Json
