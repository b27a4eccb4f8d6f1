/-!
# Digits

Numbers as digits in bases up to sixteen, the most significant digit first.
-/

namespace InboxAudit.Text
set_option autoImplicit false

/-- The value of a digit, and sixteen for anything else. -/
def digitValue (c : Char) : Nat :=
  if c.isDigit then c.toNat - 48
  else if 'a' ≤ c ∧ c ≤ 'f' then c.toNat - 87
  else if 'A' ≤ c ∧ c ≤ 'F' then c.toNat - 55
  else 16

/-- A digit of a base. -/
def isDigitOf (base : Nat) (c : Char) : Bool := digitValue c < base

/-- The value of digits in a base. -/
def digitsValue (base : Nat) (digits : List Char) : Nat :=
  digits.foldl (fun n d => n * base + digitValue d) 0

/-- The number that one or more decimal digits spell. -/
def digits? (s : List Char) : Option Nat :=
  if s ≠ [] ∧ s.all Char.isDigit then some (digitsValue 10 s) else none

/-- The number that decimal digits spell, a plus sign before them or not. -/
def natural? : List Char → Option Nat
  | '+' :: rest => digits? rest
  | s => digits? s

/-- The number that decimal digits spell, a sign before them or not. -/
def integer? : List Char → Option Int
  | '-' :: rest => (digits? rest).map fun n => -(n : Int)
  | s => (natural? s).map Int.ofNat

end InboxAudit.Text
