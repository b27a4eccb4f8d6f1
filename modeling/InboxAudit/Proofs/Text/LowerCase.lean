import InboxAudit.Text.LowerCase

/-!
# What lower-casing leaves alone

The table of letters is closed: no lower-case form in it is itself a letter of it
(`not_holds_lower`), so every text that lower-casing yields, and every part of one, is left as it is
(`isLower_of_mem_lowerCase`, `lowerCase_eq_self`). Only letters come from elsewhere: an ASCII
character of the lower-case form that is no letter stands in the text (`mem_of_mem_lowerCase`).
-/

namespace InboxAudit.Text
set_option autoImplicit false

/-- The character is its own lower-case form. -/
def IsLower (c : Char) : Prop := lowerChar c = [c]

instance (c : Char) : Decidable (IsLower c) := inferInstanceAs (Decidable (lowerChar c = [c]))

namespace CaseRange

/-- The code point of the lower-case form of a letter of the range. -/
def lower (r : CaseRange) (n : Nat) : Nat :=
  match r.offset with
  | .ofNat up => n + up
  | .negSucc down => n - (down + 1)

theorem lower_eq_toNat (r : CaseRange) (n : Nat) : r.lower n = (Int.ofNat n + r.offset).toNat := by
  unfold lower
  split
  · next up eq => rw [eq]; rfl
  · next down eq =>
    rw [eq]
    show n - (down + 1) = ((n : Int) + Int.negSucc down).toNat
    omega

theorem holds_iff {r : CaseRange} {n : Nat} :
    r.holds n = true ↔ r.first ≤ n ∧ n ≤ r.last ∧ (n - r.first) % r.step = 0 := by
  simp [holds, and_assoc]

/-- The letters of the range. -/
def points (r : CaseRange) : List Nat :=
  (List.range ((r.last - r.first) / r.step + 1)).map fun k => r.first + r.step * k

theorem mem_points {r : CaseRange} {n : Nat} (holds : r.holds n = true) : n ∈ r.points := by
  obtain ⟨low, high, onStep⟩ := holds_iff.1 holds
  have steps : r.step * ((n - r.first) / r.step) = n - r.first :=
    Nat.mul_div_cancel' (Nat.dvd_of_mod_eq_zero onStep)
  have within : (n - r.first) / r.step ≤ (r.last - r.first) / r.step :=
    Nat.div_le_div_right (Nat.sub_le_sub_right high _)
  exact List.mem_map.2 ⟨_, List.mem_range.2 (Nat.lt_succ_of_le within), by omega⟩

/-- The lower-case forms of the range are characters, and of ASCII and `İ` they meet at most the
small letters. -/
def IsSound (r : CaseRange) : Prop :=
  0x61 ≤ r.first + r.offset ∧
    (r.last + r.offset < 0xD800 ∨ 0xE000 ≤ r.first + r.offset ∧ r.last + r.offset < 0x110000) ∧
    (r.last + r.offset ≤ 0x7A ∨ 0x80 ≤ r.first + r.offset) ∧
    (r.last + r.offset < 0x130 ∨ 0x130 < r.first + r.offset)

instance (r : CaseRange) : Decidable r.IsSound := inferInstanceAs (Decidable (_ ∧ _ ∧ _ ∧ _))

theorem IsSound.lower_eq {r : CaseRange} {n : Nat} (sound : r.IsSound) (holds : r.holds n = true) :
    (r.lower n : Int) = n + r.offset := by
  obtain ⟨positive, -⟩ := sound
  obtain ⟨low, -⟩ := holds_iff.1 holds
  have point : r.lower n = (n + r.offset).toNat := r.lower_eq_toNat n
  omega

end CaseRange

/-- Some numbers as the bits of one, so that a look-up is one step of arithmetic. -/
def bits (points : List Nat) : Nat := points.foldr (fun n rest => 1 <<< n ||| rest) 0

theorem testBit_bits {points : List Nat} {n : Nat} (mem : n ∈ points) :
    (bits points).testBit n = true := by
  induction points with
  | nil => cases mem
  | cons m rest ih =>
    have first : bits (m :: rest) = 1 <<< m ||| bits rest := rfl
    rw [first, Nat.testBit_or]
    rcases List.mem_cons.1 mem with rfl | mem
    · rw [Nat.one_shiftLeft, Nat.testBit_two_pow_self, Bool.true_or]
    · rw [ih mem, Bool.or_true]

/-- The letters of the table as bits. -/
def letterBits : Nat := bits (lowerCaseRanges.flatMap CaseRange.points)

theorem testBit_letterBits {q : CaseRange} {n : Nat} (mem : q ∈ lowerCaseRanges)
    (holds : q.holds n = true) : letterBits.testBit n = true :=
  testBit_bits (List.mem_flatMap.2 ⟨q, mem, CaseRange.mem_points holds⟩)

theorem testBit_lower_eq_false : (lowerCaseRanges.all fun r =>
    r.points.all fun n => !letterBits.testBit (r.lower n)) = true := by
  decide +kernel

/-- No lower-case form in the table is a letter of the table. -/
theorem not_holds_lower {r q : CaseRange} {n : Nat} (mem : r ∈ lowerCaseRanges)
    (mem' : q ∈ lowerCaseRanges) (holds : r.holds n = true) : q.holds (r.lower n) = false := by
  have clear := List.all_eq_true.1 (List.all_eq_true.1 testBit_lower_eq_false r mem) n
    (CaseRange.mem_points holds)
  rw [Bool.eq_false_iff]
  intro held
  rw [testBit_letterBits mem' held] at clear
  cases clear

theorem isSound_of_mem : ∀ r ∈ lowerCaseRanges, r.IsSound := by
  decide +kernel

/-- What the lower-case form of a character consists of. -/
theorem lowerChar_cases {c d : Char} (h : d ∈ lowerChar c) :
    (c.toNat < 0x80 ∧ d = c.toLower) ∨ (c = 'İ' ∧ (d = 'i' ∨ d = '\u0307')) ∨
      (∃ r ∈ lowerCaseRanges, r.holds c.toNat = true ∧ d.toNat = r.lower c.toNat) ∨
      (d = c ∧ IsLower c) := by
  unfold IsLower
  unfold lowerChar at h ⊢
  split at h
  · next ascii => exact .inl ⟨ascii, List.mem_singleton.1 h⟩
  · next wide =>
    split at h
    · next dotted => exact .inr (.inl ⟨dotted, by simpa using h⟩)
    · next plain =>
      split at h
      · next r found =>
        have mem := List.mem_of_find?_eq_some found
        have holds : r.holds c.toNat = true := by simpa using List.find?_some found
        refine .inr (.inr (.inl ⟨r, mem, holds, ?_⟩))
        have point := (isSound_of_mem r mem).lower_eq holds
        obtain ⟨low, high, -⟩ := CaseRange.holds_iff.1 holds
        obtain ⟨positive, scalar, -⟩ := isSound_of_mem r mem
        have valid : (r.lower c.toNat).isValidChar := by
          unfold Nat.isValidChar
          omega
        rw [List.mem_singleton.1 h, ← r.lower_eq_toNat, Char.ofNat, dif_pos valid]
        rfl
      · next none =>
        refine .inr (.inr (.inr ⟨List.mem_singleton.1 h, ?_⟩))
        rw [if_neg wide, if_neg plain]

theorem isLower_toLower {c : Char} (ascii : c.toNat < 0x80) : IsLower c.toLower := by
  have all : ∀ n < 0x80, IsLower (Char.ofNat n).toLower := by decide
  simpa using all c.toNat ascii

theorem toLower_eq_self {c : Char} (noCapital : c.toNat < 0x41 ∨ 0x5A < c.toNat)
    (ascii : c.toNat < 0x80) : c.toLower = c := by
  have all : ∀ n < 0x80, n < 0x41 ∨ 0x5A < n → (Char.ofNat n).toLower = Char.ofNat n := by
    decide
  simpa using all c.toNat ascii noCapital

/-- A lower-case form is its own lower-case form. -/
theorem isLower_of_mem_lowerChar {c d : Char} (h : d ∈ lowerChar c) : IsLower d := by
  rcases lowerChar_cases h with ⟨ascii, rfl⟩ | ⟨-, rfl | rfl⟩ | ⟨r, mem, holds, point⟩ | ⟨rfl, lower⟩
  · exact isLower_toLower ascii
  · decide
  · decide
  · have sound := isSound_of_mem r mem
    have code := sound.lower_eq holds
    obtain ⟨low, high, -⟩ := CaseRange.holds_iff.1 holds
    obtain ⟨positive, -, -, notDotted⟩ := isSound_of_mem r mem
    have absent : lowerCaseRanges.find? (·.holds d.toNat) = none := by
      rw [List.find?_eq_none]
      intro q memQ
      rw [point, not_holds_lower mem memQ holds]
      exact Bool.false_ne_true
    have plain : d ≠ 'İ' := by
      rintro rfl
      have dotted : 'İ'.toNat = 0x130 := rfl
      omega
    have noCapital : d.toNat < 0x41 ∨ 0x5A < d.toNat := by omega
    unfold IsLower lowerChar
    by_cases ascii : d.toNat < 0x80
    · rw [if_pos ascii, toLower_eq_self noCapital ascii]
    · rw [if_neg ascii, if_neg plain, absent]
  · exact lower

/-- An ASCII character that is no letter is the lower-case form of itself alone. -/
theorem eq_of_mem_lowerChar {c d : Char} (ascii : d.toNat < 0x80) (noLetter : d.isAlpha = false)
    (h : d ∈ lowerChar c) : d = c := by
  rcases lowerChar_cases h with ⟨ascii', rfl⟩ | ⟨-, rfl | rfl⟩ | ⟨r, mem, holds, point⟩ | ⟨rfl, -⟩
  · have all : ∀ n < 0x80, (Char.ofNat n).toLower.isAlpha = false →
        (Char.ofNat n).toLower = Char.ofNat n := by decide
    simpa using all c.toNat ascii' (by simpa using noLetter)
  · cases noLetter
  · exact absurd ascii (by decide)
  · have code := (isSound_of_mem r mem).lower_eq holds
    obtain ⟨low, high, -⟩ := CaseRange.holds_iff.1 holds
    obtain ⟨positive, -, small, -⟩ := isSound_of_mem r mem
    have all : ∀ n < 0x80, 0x61 ≤ n → n ≤ 0x7A → (Char.ofNat n).isAlpha = true := by decide
    have letter : (Char.ofNat d.toNat).isAlpha = true := all d.toNat ascii (by omega) (by omega)
    rw [Char.ofNat_toNat, noLetter] at letter
    cases letter
  · rfl

/-- Sigma apart, the form of a character in a text is its own form. -/
theorem lowerAt_cases {before rest : List Char} {c d : Char} (h : d ∈ lowerAt before c rest) :
    d = 'ς' ∨ d = 'σ' ∨ d ∈ lowerChar c := by
  unfold lowerAt at h
  split at h
  · split at h
    · exact .inl (List.mem_singleton.1 h)
    · exact .inr (.inl (List.mem_singleton.1 h))
  · exact .inr (.inr h)

theorem exists_of_mem_lowerAfter {before s : List Char} {d : Char} (h : d ∈ lowerAfter before s) :
    d = 'ς' ∨ d = 'σ' ∨ ∃ c ∈ s, d ∈ lowerChar c := by
  induction s generalizing before with
  | nil => cases h
  | cons c rest ih =>
    rw [lowerAfter, List.mem_append] at h
    rcases h with here | later
    · exact (lowerAt_cases here).imp_right (·.imp_right fun mem => ⟨c, List.mem_cons_self, mem⟩)
    · refine (ih later).imp_right (·.imp_right ?_)
      rintro ⟨c, mem, lower⟩
      exact ⟨c, List.mem_cons_of_mem _ mem, lower⟩

theorem isLower_of_mem_lowerCase {s : List Char} {d : Char} (h : d ∈ lowerCase s) : IsLower d := by
  rcases exists_of_mem_lowerAfter h with rfl | rfl | ⟨c, -, mem⟩
  · decide
  · decide
  · exact isLower_of_mem_lowerChar mem

/-- A character that is its own lower-case form is no capital sigma, so its neighbours do not
matter. -/
theorem IsLower.lowerAt_eq {c : Char} (h : IsLower c) (before rest : List Char) :
    lowerAt before c rest = [c] := by
  unfold lowerAt
  split
  · next sigma =>
    subst sigma
    exact absurd h (by decide)
  · exact h

theorem lowerAfter_eq_self {before s : List Char} (h : ∀ c ∈ s, IsLower c) :
    lowerAfter before s = s := by
  induction s generalizing before with
  | nil => rfl
  | cons c rest ih =>
    obtain ⟨lower, tail⟩ := List.forall_mem_cons.1 h
    rw [lowerAfter, lower.lowerAt_eq, ih tail, List.singleton_append]

/-- Lower-casing leaves a text alone that consists of lower-case forms. -/
theorem lowerCase_eq_self {s : List Char} (h : ∀ c ∈ s, IsLower c) : lowerCase s = s :=
  lowerAfter_eq_self h

@[simp] theorem lowerCase_lowerCase (s : List Char) : lowerCase (lowerCase s) = lowerCase s :=
  lowerCase_eq_self fun _ => isLower_of_mem_lowerCase

theorem mem_of_mem_lowerCase {s : List Char} {c : Char} (ascii : c.toNat < 0x80)
    (noLetter : c.isAlpha = false) (h : c ∈ lowerCase s) : c ∈ s := by
  rcases exists_of_mem_lowerAfter h with rfl | rfl | ⟨b, mem, lower⟩
  · exact absurd ascii (by decide)
  · exact absurd ascii (by decide)
  · rwa [eq_of_mem_lowerChar ascii noLetter lower]

end InboxAudit.Text
