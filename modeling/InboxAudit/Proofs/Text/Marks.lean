import InboxAudit.Proofs.Text.Sigma

/-!
# Characters that lower-casing neither takes nor gives

A blank, and a character of ASCII that is no letter, is the lower-case form of nothing but itself
(`isMark_of_isBlank`, `isMark_of_noLetter`). So where such a character stands at the end of a
lower-case form it stood at the end of the text (`IsMark.head?_lowerCase`, `IsMark.getLast?_lowerCase`), and where it
stands in one at all it stood in the text (`IsMark.mem_of_mem_lowerAfter`).
A text of ASCII is lower-cased letter by letter, whatever comes before it (`lowerAfter_of_ascii`).
-/

namespace InboxAudit.Text
set_option autoImplicit false

/-- No other character has the character in its lower-case form, wherever it stands. -/
def IsMark (d : Char) : Prop := ∀ before c rest, d ∈ lowerAt before c rest → c = d

/-- That a character is outside a class of marks has to be shown only for marks. -/
theorem eq_false_of_isMark {p : Char → Bool} {d : Char} (marks : p d = true → IsMark d)
    (outside : IsMark d → p d = false) : p d = false := by
  cases inside : p d with
  | false => rfl
  | true => rw [← inside, outside (marks inside)]

theorem isMark_of_lowerChar {d : Char} (final : d ≠ 'ς') (inner : d ≠ 'σ')
    (alone : ∀ c, d ∈ lowerChar c → c = d) : IsMark d := by
  intro before c rest mem
  rcases lowerAt_cases mem with same | same | mem
  · exact absurd same final
  · exact absurd same inner
  · exact alone c mem

theorem isMark_of_noLetter {d : Char} (ascii : d.toNat < 0x80) (noLetter : d.isAlpha = false) :
    IsMark d := by
  apply isMark_of_lowerChar
  · rintro rfl
    exact absurd ascii (by decide)
  · rintro rfl
    exact absurd ascii (by decide)
  · exact fun c mem => (eq_of_mem_lowerChar ascii noLetter mem).symm

/-- The lower-case forms of the table keep clear of the blanks. -/
theorem lower_apart_of_blank : ∀ r ∈ lowerCaseRanges, ∀ b ∈ blankRanges,
    r.last + r.offset < b.1 ∨ (b.2 : Int) ≤ r.first + r.offset := by
  decide +kernel

theorem isMark_of_isBlank {d : Char} (blank : isBlank d = true) : IsMark d := by
  apply isMark_of_lowerChar
  · rintro rfl
    exact absurd blank (by decide)
  · rintro rfl
    exact absurd blank (by decide)
  · intro c mem
    rcases lowerChar_cases mem with ⟨ascii, rfl⟩ | ⟨-, rfl | rfl⟩ | ⟨r, listed, holds, point⟩ | ⟨rfl, -⟩
    · have all : ∀ n < 0x80, isBlank (Char.ofNat n).toLower = true →
          Char.ofNat n = (Char.ofNat n).toLower := by decide
      have same := all c.toNat ascii
      rw [Char.ofNat_toNat] at same
      exact same blank
    · exact absurd blank (by decide)
    · exact absurd blank (by decide)
    · obtain ⟨b, among, low, high⟩ := inRanges_iff.1 blank
      have code := (isSound_of_mem r listed).lower_eq holds
      obtain ⟨above, below, -⟩ := CaseRange.holds_iff.1 holds
      rcases lower_apart_of_blank r listed b among with apart | apart <;> omega
    · rfl

section Places

variable {d : Char} (h : IsMark d) {s : List Char}
include h

theorem IsMark.mem_of_mem_lowerAfter {before : List Char} (mem : d ∈ lowerAfter before s) : d ∈ s := by
  induction s generalizing before with
  | nil => cases mem
  | cons c rest ih =>
    rw [lowerAfter, List.mem_append] at mem
    rcases mem with here | later
    · rw [h _ _ _ here]
      exact List.mem_cons_self
    · exact List.mem_cons_of_mem _ (ih later)

theorem IsMark.head?_lowerCase (first : d ∈ (lowerCase s).head?) : d ∈ s.head? := by
  cases s with
  | nil => cases first
  | cons c rest =>
    rw [lowerCase, lowerAfter, List.head?_append_of_ne_nil _ (lowerAt_ne_nil _ _ _)] at first
    rw [← h _ _ _ (List.mem_of_head? first)]
    rfl

theorem IsMark.getLast?_lowerCase (last : d ∈ (lowerCase s).getLast?) : d ∈ s.getLast? := by
  rcases List.eq_nil_or_concat s with rfl | ⟨before, c, rfl⟩
  · cases last
  · have form (b : List Char) : lowerAfter b [c] = lowerAt b c [] := List.append_nil _
    rw [List.concat_eq_append, lowerCase, lowerAfter_append, form,
      List.getLast?_append_of_ne_nil _ (lowerAt_ne_nil _ _ _)] at last
    rw [← h _ _ _ (List.mem_of_mem_getLast? last)]
    simp

end Places

theorem lowerAt_of_ascii {c : Char} (ascii : c.toNat < 0x80) (before rest : List Char) :
    lowerAt before c rest = [c.toLower] := by
  have plain : c ≠ 'Σ' := by
    rintro rfl
    exact absurd ascii (by decide)
  rw [lowerAt_of_ne plain, lowerChar, if_pos ascii]

theorem lowerAfter_of_ascii {s : List Char} (ascii : ∀ c ∈ s, c.toNat < 0x80) (before : List Char) :
    lowerAfter before s = foldCase s := by
  induction s generalizing before with
  | nil => rfl
  | cons c rest ih =>
    obtain ⟨first, tail⟩ := List.forall_mem_cons.1 ascii
    rw [lowerAfter, lowerAt_of_ascii first, ih tail, List.singleton_append, foldCase_cons]

end InboxAudit.Text
