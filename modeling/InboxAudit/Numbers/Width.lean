/-!
# Numbers of a width

Whole numbers that are written with so many bits, with or without a sign.
-/

namespace InboxAudit.Numbers
set_option autoImplicit false

/-- The number that all numbers of so many bits lie below. -/
def bound (bits : Nat) : Nat := Nat.pow 2 bits

/-- The number has so many bits, one of them for the sign. -/
def isSigned (bits : Nat) (n : Int) : Bool :=
  -(bound (bits - 1) : Int) ≤ n && n < (bound (bits - 1) : Int)

/-- The power of ten with so many zeros. -/
def tens (zeros : Nat) : Nat := Nat.pow 10 zeros

end InboxAudit.Numbers
