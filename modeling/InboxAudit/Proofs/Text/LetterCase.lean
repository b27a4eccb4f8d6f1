import InboxAudit.Proofs.Text.LowerCase
import InboxAudit.Proofs.Text.Parts

/-!
# The case of ASCII letters

`foldCase` makes the capital letters of ASCII small and leaves every other character alone. Trimming and
splitting at a class of characters that holds both forms of a letter or none go through with it
(`trim_foldCase`, `pieces_foldCase`). Lower-casing does not see it at all (`lowerCase_foldCase`), though it looks
at the neighbours of a sigma: both forms of a letter are cased, and neither is passed over. Where a lower-case form
is of ASCII it has, but for the Kelvin sign, come from ASCII (`lowerCase_eq_iff`).
-/

namespace InboxAudit.Text
set_option autoImplicit false

/-- The text with small letters in place of the capital letters of ASCII. -/
def foldCase (s : List Char) : List Char := s.map Char.toLower

@[simp] theorem foldCase_nil : foldCase [] = [] := rfl

@[simp] theorem foldCase_cons (c : Char) (s : List Char) :
    foldCase (c :: s) = c.toLower :: foldCase s := rfl

@[simp] theorem foldCase_eq_nil_iff {s : List Char} : foldCase s = [] ↔ s = [] := List.map_eq_nil_iff

theorem sameAsciiCase_iff {s t : List Char} : sameAsciiCase s t = true ↔ foldCase s = foldCase t := by
  rw [sameAsciiCase, beq_iff_eq, foldCase, foldCase]

/-- All characters but the capital letters of ASCII stay as they are. -/
theorem toLower_of_not_capital {c : Char} (h : c.toNat < 0x41 ∨ 0x5A < c.toNat) : c.toLower = c := by
  have outside : ¬ (c.val ≥ 'A'.val ∧ c.val ≤ 'Z'.val) := by
    rintro ⟨lower, upper⟩
    have low : 0x41 ≤ c.toNat := lower
    have high : c.toNat ≤ 0x5A := upper
    omega
  exact dif_neg outside

/-- A character is one of the capital letters, whose small forms are known, or its own small form. -/
theorem toLower_cases (c : Char) :
    (∃ n < 26, c = Char.ofNat (0x41 + n) ∧ c.toLower = Char.ofNat (0x61 + n)) ∨ c.toLower = c := by
  by_cases capital : 0x41 ≤ c.toNat ∧ c.toNat ≤ 0x5A
  · obtain ⟨low, high⟩ := capital
    have small : ∀ n < 26, (Char.ofNat (0x41 + n)).toLower = Char.ofNat (0x61 + n) := by decide
    have point : 0x41 + (c.toNat - 0x41) = c.toNat := Nat.add_sub_cancel' low
    have letter : c = Char.ofNat (0x41 + (c.toNat - 0x41)) := by rw [point, Char.ofNat_toNat]
    refine .inl ⟨c.toNat - 0x41, by omega, letter, ?_⟩
    rw [← small _ (by omega), ← letter]
  · exact .inr (toLower_of_not_capital (by omega))

theorem toLower_toLower (c : Char) : c.toLower.toLower = c.toLower := by
  rcases toLower_cases c with ⟨n, lt, -, small⟩ | same
  · have all : ∀ n < 26, (Char.ofNat (0x61 + n)).toLower = Char.ofNat (0x61 + n) := by decide
    rw [small, all n lt]
  · rw [same, same]

@[simp] theorem foldCase_foldCase (s : List Char) : foldCase (foldCase s) = foldCase s := by
  rw [foldCase, foldCase, List.map_map]
  exact List.map_congr_left fun c _ => toLower_toLower c

/-- What does not see the case of a text is the same for texts that differ in nothing else. -/
theorem eq_of_sameAsciiCase {α : Type} {f : List Char → α} (blind : ∀ s, f (foldCase s) = f s)
    {s t : List Char} (same : sameAsciiCase s t = true) : f s = f t := by
  rw [← blind s, sameAsciiCase_iff.1 same, blind t]

theorem not_mem_of_sameAsciiCase {s t : List Char} {c : Char} (same : sameAsciiCase s t = true)
    (none : c.toLower ∉ foldCase t) : c ∉ s := by
  intro mem
  rw [← sameAsciiCase_iff.1 same] at none
  exact none (List.mem_map_of_mem mem)

/-- The texts are equal up to the case of ASCII letters. -/
def SameText (a b : String) : Prop := sameAsciiCase a.toList b.toList = true

instance (a b : String) : Decidable (SameText a b) := inferInstanceAs (Decidable (_ = true))

theorem sameText_iff {a b : String} : SameText a b ↔ foldCase a.toList = foldCase b.toList := sameAsciiCase_iff

theorem SameText.symm {a b : String} (same : SameText a b) : SameText b a :=
  sameText_iff.2 (sameText_iff.1 same).symm

theorem SameText.trans {a b c : String} (same : SameText a b) (same' : SameText b c) : SameText a c :=
  sameText_iff.2 ((sameText_iff.1 same).trans (sameText_iff.1 same'))

/-- The class holds both forms of a letter or none. -/
def Caseless (p : Char → Bool) : Prop := ∀ c, p c.toLower = p c

theorem caseless_of_letters {p : Char → Bool}
    (letters : ∀ n < 26, p (Char.ofNat (0x61 + n)) = p (Char.ofNat (0x41 + n))) : Caseless p := by
  intro c
  rcases toLower_cases c with ⟨n, lt, rfl, small⟩ | same
  · rw [small, letters n lt]
  · rw [same]

/-- A character that is no letter of ASCII is the small form of itself alone. -/
theorem toLower_eq_iff {c d : Char} (noLetter : d.isAlpha = false) : c.toLower = d ↔ c = d := by
  rcases toLower_cases c with ⟨n, lt, rfl, small⟩ | same
  · have all : ∀ n < 26,
        (Char.ofNat (0x41 + n)).isAlpha = true ∧ (Char.ofNat (0x61 + n)).isAlpha = true := by decide
    obtain ⟨capital, letter⟩ := all n lt
    rw [small]
    constructor
    · rintro rfl
      rw [letter] at noLetter
      cases noLetter
    · rintro rfl
      rw [capital] at noLetter
      cases noLetter
  · rw [same]

theorem mem_foldCase_iff {d : Char} (noLetter : d.isAlpha = false) {s : List Char} :
    d ∈ foldCase s ↔ d ∈ s := by
  simp [foldCase, toLower_eq_iff noLetter]

theorem caseless_isBlank : Caseless isBlank := caseless_of_letters (by decide)

theorem caseless_isCased : Caseless isCased := caseless_of_letters (by decide)

/-- The ranges of what is passed over keep clear of the letters of ASCII. -/
theorem caseIgnorable_apart : ∀ r ∈ caseIgnorableRanges,
    (r.2 ≤ 0x41 ∨ 0x5B ≤ r.1) ∧ (r.2 ≤ 0x61 ∨ 0x7B ≤ r.1) := by
  decide +kernel

theorem isCaseIgnorable_of_letter {n : Nat} (lt : n < 26) :
    isCaseIgnorable (Char.ofNat (0x41 + n)) = false ∧ isCaseIgnorable (Char.ofNat (0x61 + n)) = false := by
  have points : ∀ n < 26, (Char.ofNat (0x41 + n)).toNat = 0x41 + n ∧
      (Char.ofNat (0x61 + n)).toNat = 0x61 + n := by decide
  obtain ⟨capital, small⟩ := points n lt
  constructor
  · rw [isCaseIgnorable, capital, Bool.eq_false_iff, Ne, inRanges_iff]
    rintro ⟨r, mem, low, high⟩
    obtain ⟨apart, -⟩ := caseIgnorable_apart r mem
    omega
  · rw [isCaseIgnorable, small, Bool.eq_false_iff, Ne, inRanges_iff]
    rintro ⟨r, mem, low, high⟩
    obtain ⟨-, apart⟩ := caseIgnorable_apart r mem
    omega

theorem caseless_isCaseIgnorable : Caseless isCaseIgnorable := by
  apply caseless_of_letters
  intro n lt
  obtain ⟨capital, small⟩ := isCaseIgnorable_of_letter lt
  rw [capital, small]

theorem Caseless.not {p : Char → Bool} (h : Caseless p) : Caseless fun c => !p c :=
  fun c => congrArg _ (h c)

section Parts

variable {p : Char → Bool} (h : Caseless p) (s : List Char)
include h

theorem dropWhile_foldCase : (foldCase s).dropWhile p = foldCase (s.dropWhile p) := by
  have same : p ∘ Char.toLower = p := funext h
  rw [foldCase, List.dropWhile_map, same, foldCase]

theorem takeWhile_foldCase : (foldCase s).takeWhile p = foldCase (s.takeWhile p) := by
  have same : p ∘ Char.toLower = p := funext h
  rw [foldCase, List.takeWhile_map, same, foldCase]

theorem trimStart_foldCase : trimStart p (foldCase s) = foldCase (trimStart p s) :=
  dropWhile_foldCase h s

theorem trimEnd_foldCase : trimEnd p (foldCase s) = foldCase (trimEnd p s) := by
  have backwards : (foldCase s).reverse = foldCase s.reverse := by simp [foldCase]
  rw [trimEnd, backwards, dropWhile_foldCase h, trimEnd]
  simp [foldCase]

theorem trim_foldCase : trim p (foldCase s) = foldCase (trim p s) := by
  rw [trim, trimStart_foldCase h, trimEnd_foldCase h, trim]

theorem pieces_foldCase : pieces p (foldCase s) = (pieces p s).map foldCase := by
  induction s with
  | nil => rfl
  | cons c rest ih =>
    rw [foldCase_cons, pieces, pieces, h c, ih]
    cases p c with
    | true => rfl
    | false => cases pieces p rest <;> rfl

theorem splitFirst?_foldCase :
    splitFirst? p (foldCase s) = (splitFirst? p s).map fun parts => (foldCase parts.1, foldCase parts.2) := by
  rw [splitFirst?, splitFirst?, dropWhile_foldCase h.not, takeWhile_foldCase h.not]
  cases s.dropWhile fun c => !p c <;> rfl

end Parts

theorem strip_foldCase (s : List Char) : strip (foldCase s) = foldCase (strip s) :=
  trim_foldCase caseless_isBlank s

theorem startsCased_foldCase (s : List Char) : startsCased (foldCase s) = startsCased s := by
  rw [startsCased, startsCased, dropWhile_foldCase caseless_isCaseIgnorable]
  cases s.dropWhile isCaseIgnorable with
  | nil => rfl
  | cons c rest => exact caseless_isCased c

theorem lowerChar_toLower (c : Char) : lowerChar c.toLower = lowerChar c := by
  rcases toLower_cases c with ⟨n, lt, rfl, small⟩ | same
  · have all : ∀ n < 26, lowerChar (Char.ofNat (0x61 + n)) = lowerChar (Char.ofNat (0x41 + n)) := by
      decide
    rw [small, all n lt]
  · rw [same]

theorem lowerAt_toLower (before : List Char) (c : Char) (rest : List Char) :
    lowerAt (foldCase before) c.toLower (foldCase rest) = lowerAt before c rest := by
  have sigma : c.toLower = 'Σ' ↔ c = 'Σ' := toLower_eq_iff (by decide)
  simp only [lowerAt, sigma, startsCased_foldCase, lowerChar_toLower]

theorem lowerAfter_foldCase (before s : List Char) :
    lowerAfter (foldCase before) (foldCase s) = lowerAfter before s := by
  induction s generalizing before with
  | nil => rfl
  | cons c rest ih =>
    rw [foldCase_cons, lowerAfter, lowerAt_toLower, lowerAfter, ← foldCase_cons, ih]

/-- The case of ASCII letters does not show in the lower-case form of a text. -/
theorem lowerCase_foldCase (s : List Char) : lowerCase (foldCase s) = lowerCase s :=
  lowerAfter_foldCase [] s

theorem IsLower.toLower_eq {c : Char} (h : IsLower c) : c.toLower = c := by
  by_cases ascii : c.toNat < 0x80
  · rw [IsLower, lowerChar, if_pos ascii] at h
    exact List.singleton_inj.1 h
  · exact toLower_of_not_capital (by omega)

/-- Of the ranges of the table only the capital letters of ASCII and the Kelvin sign lead to ASCII. -/
theorem caseRange_ascii : ∀ r ∈ lowerCaseRanges, r.first + r.offset < 0x80 →
    r = ⟨0x41, 0x5A, 1, 32⟩ ∨ r = ⟨0x212A, 0x212A, 1, -8383⟩ := by
  decide +kernel

/-- A character of ASCII that no letter outside has as its small form: the dotted capital I goes to `i` and the
Kelvin sign to `k`. -/
def IsNative (d : Char) : Prop := d.toNat < 0x80 ∧ d ≠ 'i' ∧ d ≠ 'k'

instance (d : Char) : Decidable (IsNative d) := inferInstanceAs (Decidable (_ ∧ _ ∧ _))

/-- Of the characters whose small form is of ASCII only the dotted capital I and the Kelvin sign are outside. -/
theorem toLower_eq_of_mem_lowerChar {c d : Char} (ascii : d.toNat < 0x80) (notK : d ≠ 'k') (undotted : c ≠ 'İ')
    (h : d ∈ lowerChar c) : c.toLower = d := by
  rcases lowerChar_cases h with ⟨-, rfl⟩ | ⟨dotted, -⟩ | ⟨r, mem, holds, point⟩ | ⟨rfl, lower⟩
  · rfl
  · exact absurd dotted undotted
  · have code := (isSound_of_mem r mem).lower_eq holds
    obtain ⟨low, high, -⟩ := CaseRange.holds_iff.1 holds
    rcases caseRange_ascii r mem (by omega) with rfl | rfl
    · have small : ∀ n < 0x5B, 0x41 ≤ n → (Char.ofNat n).toLower = Char.ofNat (n + 32) := by decide
      have sum : d.toNat = c.toNat + 32 := by dsimp only at code; omega
      have lower := small c.toNat (Nat.lt_succ_of_le high) low
      rwa [Char.ofNat_toNat, ← sum, Char.ofNat_toNat] at lower
    · have kelvin : d.toNat = 'k'.toNat := by
        have letter : 'k'.toNat = 0x6B := rfl
        dsimp only at low high code
        omega
      exact absurd (Char.toNat_inj.1 kelvin) notK
  · exact lower.toLower_eq

theorem lowerChar_dotted : lowerChar 'İ' = ['i', '\u0307'] := rfl

theorem IsNative.toLower_eq_of_mem {c d : Char} (native : IsNative d) (h : d ∈ lowerChar c) :
    c.toLower = d := by
  obtain ⟨ascii, notI, notK⟩ := native
  refine toLower_eq_of_mem_lowerChar ascii notK ?_ h
  rintro rfl
  rw [lowerChar_dotted, List.mem_cons, List.mem_singleton] at h
  rcases h with rfl | rfl
  · exact notI rfl
  · exact absurd ascii (by decide)

theorem lowerAt_ne_nil (before : List Char) (c : Char) (rest : List Char) : lowerAt before c rest ≠ [] := by
  unfold lowerAt lowerChar
  split
  · split <;> exact List.cons_ne_nil _ _
  · split
    · exact List.cons_ne_nil _ _
    · split
      · exact List.cons_ne_nil _ _
      · split <;> exact List.cons_ne_nil _ _

theorem IsNative.toLower_eq_of_mem_lowerAt {before rest : List Char} {c d : Char} (native : IsNative d)
    (h : d ∈ lowerAt before c rest) : c.toLower = d := by
  rcases lowerAt_cases h with rfl | rfl | mem
  · exact absurd native (by decide)
  · exact absurd native (by decide)
  · exact native.toLower_eq_of_mem mem

theorem lowerAt_eq_toLower {before rest : List Char} {c : Char}
    (plain : ∀ d ∈ lowerAt before c rest, d.toNat < 0x80 ∧ d ≠ 'k') : lowerAt before c rest = [c.toLower] := by
  obtain ⟨d, mem⟩ := List.exists_mem_of_ne_nil _ (lowerAt_ne_nil before c rest)
  obtain ⟨ascii, notK⟩ := plain d mem
  have undotted : c ≠ 'İ' := by
    -- The dot above is a character of its own in the form of this letter.
    rintro rfl
    have dot : '\u0307' ∈ lowerAt before 'İ' rest := by
      rw [lowerAt, if_neg (by decide), lowerChar_dotted]
      exact List.mem_cons_of_mem _ List.mem_cons_self
    exact absurd (plain '\u0307' dot).1 (by decide)
  rcases lowerAt_cases mem with rfl | rfl | mem
  · exact absurd ascii (by decide)
  · exact absurd ascii (by decide)
  · have lower := toLower_eq_of_mem_lowerChar ascii notK undotted mem
    rw [← lowerAt_toLower, lower]
    exact (isLower_of_mem_lowerChar mem).lowerAt_eq _ _

/-- A text whose lower-case form is of ASCII, without the letter to which the Kelvin sign goes, differs from the form
in the case of ASCII letters alone. -/
theorem foldCase_eq_lowerAfter {before s : List Char}
    (plain : ∀ d ∈ lowerAfter before s, d.toNat < 0x80 ∧ d ≠ 'k') : foldCase s = lowerAfter before s := by
  induction s generalizing before with
  | nil => rfl
  | cons c rest ih =>
    rw [lowerAfter] at plain ⊢
    have form := lowerAt_eq_toLower fun d mem => plain d (List.mem_append_left _ mem)
    rw [foldCase_cons, form, ih fun d mem => plain d (List.mem_append_right _ mem), List.singleton_append]

/-- A text has such a word as its lower-case form exactly if it is the word in any case of ASCII letters. -/
theorem lowerCase_eq_iff {s word : List Char} (plain : ∀ d ∈ word, IsLower d ∧ d.toNat < 0x80 ∧ d ≠ 'k') :
    lowerCase s = word ↔ sameAsciiCase s word = true := by
  have small : foldCase word = word := by
    rw [foldCase, List.map_congr_left fun d mem => (plain d mem).1.toLower_eq, List.map_id']
  rw [sameAsciiCase_iff, small]
  constructor
  · rintro rfl
    exact foldCase_eq_lowerAfter fun d mem => (plain d mem).2
  · intro same
    rw [← lowerCase_foldCase, same]
    exact lowerCase_eq_self fun d mem => (plain d mem).1

theorem lowerCase_eq_nil_iff {s : List Char} : lowerCase s = [] ↔ s = [] := by
  cases s with
  | nil => simp [lowerCase, lowerAfter]
  | cons c rest => simp [lowerCase, lowerAfter, lowerAt_ne_nil]

end InboxAudit.Text
