import InboxAudit.Text.Digits

/-!
# Numbers in decimal digits

The decimal text of a number has the number as its value (`digitsValue_toDigits`) and no zero in
front of another digit (`not_leading_zero`).
-/

namespace InboxAudit.Text
set_option autoImplicit false

theorem digitsValue_eq_ofDigitChars {digits : List Char} (decimal : ∀ c ∈ digits, c.isDigit = true) :
    digitsValue 10 digits = Nat.ofDigitChars 10 digits 0 := by
  suffices fill : ∀ n, digits.foldl (fun n d => n * 10 + digitValue d) n =
      Nat.ofDigitChars 10 digits n from fill 0
  induction digits with
  | nil => exact fun n => Nat.ofDigitChars_nil.symm
  | cons c rest ih =>
    intro n
    obtain ⟨digit, tail⟩ := List.forall_mem_cons.1 decimal
    rw [List.foldl_cons, ih tail, Nat.ofDigitChars_cons, digitValue, if_pos digit, Nat.mul_comm]
    rfl

theorem isDigit_of_mem_toDigits {n : Nat} {c : Char} (h : c ∈ Nat.toDigits 10 n) :
    c.isDigit = true :=
  Nat.isDigit_of_mem_toDigits (by decide) (by decide) h

theorem exists_digit_of_toDigits (n : Nat) :
    ∃ d more, Nat.toDigits 10 n = d :: more ∧ d.isDigit = true := by
  obtain ⟨d, more, digits⟩ := List.exists_cons_of_ne_nil (Nat.toDigits_ne_nil (n := n) (b := 10))
  exact ⟨d, more, digits, isDigit_of_mem_toDigits (by rw [digits]; exact List.mem_cons_self)⟩

theorem digitsValue_toDigits (n : Nat) : digitsValue 10 (Nat.toDigits 10 n) = n := by
  rw [digitsValue_eq_ofDigitChars fun _ => isDigit_of_mem_toDigits, Nat.ofDigitChars_ten_toDigits]

theorem head?_toDigits_of_pos {n : Nat} (pos : 0 < n) : (Nat.toDigits 10 n).head? ≠ some '0' := by
  induction n using Nat.strongRecOn with
  | ind n ih =>
    rw [Nat.toDigits_eq_if (by decide)]
    split
    · next small => simpa using Nat.ne_of_gt pos
    · next large =>
      have first := List.head?_eq_some_head (Nat.toDigits_ne_nil (n := n / 10) (b := 10))
      rw [List.head?_append, first, Option.some_or, ← first]
      exact ih (n / 10) (by omega) (by omega)

/-- Only the text of zero begins with a zero. -/
theorem length_of_leading_zero {n : Nat} (zero : (Nat.toDigits 10 n).head? = some '0') :
    (Nat.toDigits 10 n).length = 1 := by
  cases n with
  | zero => rfl
  | succ n => exact absurd zero (head?_toDigits_of_pos (Nat.succ_pos n))

theorem not_leading_zero (n : Nat) :
    ¬((Nat.toDigits 10 n).head? = some '0' ∧ (Nat.toDigits 10 n).length > 1) := by
  rintro ⟨zero, long⟩
  rw [length_of_leading_zero zero] at long
  exact Nat.lt_irrefl 1 long

end InboxAudit.Text
