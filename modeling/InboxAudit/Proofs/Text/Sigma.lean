import InboxAudit.Proofs.Text.LetterCase
import Mathlib.Data.List.Basic

/-!
# Lower case and the place of a text

A text that stands inside another one is lower-cased between what comes before it and what comes after
(`lowerAfter_append`). Only a capital sigma sees its neighbours: the form of the text is its form alone exactly if
each of its capital sigmas ends a word here as there (`lowerBetween_eq_iff`). The two small forms of the sigma are
never taken for each other, so a form that is not kept is not found elsewhere by shifting (`lowerCase_infix_iff`).
-/

namespace InboxAudit.Text
set_option autoImplicit false

/-- The lower-case form of a text between the reversed text before it and the text after it. -/
def lowerBetween (before : List Char) (s after : List Char) : List Char :=
  match s with
  | [] => []
  | c :: rest => lowerAt before c (rest ++ after) ++ lowerBetween (c :: before) rest after

/-- A sigma between the reversed text before it and the text after it ends a word. -/
def endsWord (before rest : List Char) : Bool := startsCased before && !startsCased rest

/-- Each capital sigma of the text ends a word in its place exactly if it does so in the text alone. -/
def KeepsSigmas (before s after : List Char) : Prop :=
  ∀ front back, s = front ++ 'Σ' :: back →
    endsWord (front.reverse ++ before) (back ++ after) = endsWord front.reverse back

theorem lowerAfter_append (before s after : List Char) :
    lowerAfter before (s ++ after) =
      lowerBetween before s after ++ lowerAfter (s.reverse ++ before) after := by
  induction s generalizing before with
  | nil => rfl
  | cons c rest ih =>
    rw [List.cons_append, lowerAfter, ih, lowerBetween, List.append_assoc, List.reverse_cons,
      List.append_assoc, List.singleton_append]

theorem lowerCase_eq_lowerBetween (s : List Char) : lowerCase s = lowerBetween [] s [] := by
  have split := lowerAfter_append [] s []
  rwa [List.append_nil, lowerAfter, List.append_nil] at split

/-- The lower-case form of a text with a part of it in its place. -/
theorem lowerCase_append (before s after : List Char) :
    lowerCase (before ++ s ++ after) = lowerBetween [] before (s ++ after) ++
      lowerBetween before.reverse s after ++ lowerAfter (s.reverse ++ before.reverse) after := by
  rw [lowerCase, List.append_assoc, lowerAfter_append, List.append_nil, lowerAfter_append,
    List.append_assoc]

theorem lowerAt_of_ne {c : Char} (plain : c ≠ 'Σ') (before rest : List Char) :
    lowerAt before c rest = lowerChar c := by
  rw [lowerAt, if_neg plain]

theorem lowerAt_sigma (before rest : List Char) :
    lowerAt before 'Σ' rest = if endsWord before rest then ['ς'] else ['σ'] := by
  rw [lowerAt, if_pos rfl, endsWord]

/-- The form of a character has the same length in every place. -/
theorem length_lowerAt (c : Char) (before rest before' rest' : List Char) :
    (lowerAt before c rest).length = (lowerAt before' c rest').length := by
  by_cases sigma : c = 'Σ'
  · subst sigma
    rw [lowerAt_sigma, lowerAt_sigma]
    cases endsWord before rest <;> cases endsWord before' rest' <;> rfl
  · rw [lowerAt_of_ne sigma, lowerAt_of_ne sigma]

theorem lowerAt_eq_iff {c : Char} {before rest before' rest' : List Char} :
    lowerAt before c rest = lowerAt before' c rest' ↔
      (c = 'Σ' → endsWord before rest = endsWord before' rest') := by
  by_cases sigma : c = 'Σ'
  · subst sigma
    rw [lowerAt_sigma, lowerAt_sigma]
    cases endsWord before rest <;> cases endsWord before' rest' <;> decide
  · simp [lowerAt_of_ne sigma, sigma]

/-- The form of a text in its place is its form after `inner` alone exactly if its sigmas have the same form in both
places. -/
theorem lowerBetween_eq_lowerBetween_iff (inner before s after : List Char) :
    lowerBetween (inner ++ before) s after = lowerBetween inner s [] ↔
      ∀ front back, s = front ++ 'Σ' :: back →
        endsWord (front.reverse ++ (inner ++ before)) (back ++ after) =
          endsWord (front.reverse ++ inner) back := by
  -- A character that is left behind is before the rest in both places, so it joins `inner`.
  induction s generalizing inner with
  | nil => simp [lowerBetween]
  | cons c rest ih =>
    have lengths := length_lowerAt c (inner ++ before) (rest ++ after) inner rest
    have tail := ih (c :: inner)
    rw [List.cons_append] at tail
    rw [lowerBetween, lowerBetween, List.append_nil]
    constructor
    · intro same front back split
      obtain ⟨first, others⟩ := List.append_inj same lengths
      cases front with
      | nil =>
        obtain ⟨rfl, rfl⟩ := List.cons.inj split
        exact lowerAt_eq_iff.1 first rfl
      | cons d front =>
        obtain ⟨rfl, rfl⟩ := List.cons.inj split
        simpa using tail.1 others front back rfl
    · intro kept
      have first : lowerAt (inner ++ before) c (rest ++ after) = lowerAt inner c rest := by
        rw [lowerAt_eq_iff]
        rintro rfl
        exact kept [] rest rfl
      have others : lowerBetween (c :: (inner ++ before)) rest after = lowerBetween (c :: inner) rest [] := by
        rw [tail]
        rintro front back rfl
        simpa using kept (c :: front) back rfl
      rw [first, others]

/-- A text in its place has the lower-case form that it has alone exactly if its sigmas keep their forms. -/
theorem lowerBetween_eq_iff (before s after : List Char) :
    lowerBetween before s after = lowerCase s ↔ KeepsSigmas before s after := by
  have iff := lowerBetween_eq_lowerBetween_iff [] before s after
  simp only [List.nil_append, List.append_nil] at iff
  rw [lowerCase_eq_lowerBetween, iff, KeepsSigmas]

theorem startsCased_cons (c : Char) (s : List Char) :
    startsCased (c :: s) = if isCaseIgnorable c then startsCased s else isCased c := by
  rw [startsCased, List.dropWhile_cons]
  cases isCaseIgnorable c <;> rfl

theorem startsCased_of_all {s : List Char} (passed : s.all isCaseIgnorable = true) : startsCased s = false := by
  induction s with
  | nil => rfl
  | cons c rest ih =>
    rw [List.all_cons, Bool.and_eq_true] at passed
    rw [startsCased_cons, if_pos passed.1, ih passed.2]

/-- The text behind another one is seen where all of that one is passed over. -/
theorem startsCased_append (s t : List Char) :
    startsCased (s ++ t) = if s.all isCaseIgnorable then startsCased t else startsCased s := by
  induction s with
  | nil => rfl
  | cons c rest ih =>
    rw [List.cons_append, startsCased_cons, startsCased_cons, List.all_cons, ih]
    cases isCaseIgnorable c <;> rfl

/-- A text that stands between words keeps its sigmas. -/
theorem keepsSigmas_of_startsCased {before s after : List Char} (uncasedBefore : startsCased before = false)
    (uncasedAfter : startsCased after = false) : KeepsSigmas before s after := by
  have same (t : List Char) {u : List Char} (uncased : startsCased u = false) :
      startsCased (t ++ u) = startsCased t := by
    rw [startsCased_append]
    split
    · next passed => rw [uncased, startsCased_of_all passed]
    · rfl
  rintro front back rfl
  rw [endsWord, endsWord, same _ uncasedBefore, same _ uncasedAfter]

/-- The text has a capital sigma whose form depends on the place of the text: the search for what decides it passes
over all that the text has before it, or all that it has behind it. -/
def HasOpenSigma (s : List Char) : Prop :=
  ∃ front back, s = front ++ 'Σ' :: back ∧
    (front.all isCaseIgnorable = true ∧ startsCased back = false ∨
      startsCased front.reverse = true ∧ back.all isCaseIgnorable = true)

theorem keepsSigmas_of_not_hasOpenSigma {s : List Char} (closed : ¬ HasOpenSigma s) (before after : List Char) :
    KeepsSigmas before s after := by
  rintro front back rfl
  have sides : ¬ (front.all isCaseIgnorable = true ∧ startsCased back = false ∨
      startsCased front.reverse = true ∧ back.all isCaseIgnorable = true) :=
    fun isOpen => closed ⟨front, back, rfl, isOpen⟩
  rw [not_or, not_and, not_and, Bool.not_eq_false, Bool.not_eq_true] at sides
  obtain ⟨atStart, atEnd⟩ := sides
  rw [endsWord, endsWord, startsCased_append, startsCased_append, List.all_reverse]
  split
  · next passed =>
    -- A cased letter follows, so the sigma ends no word whatever comes before.
    have cased := atStart passed
    have seen : ¬ back.all isCaseIgnorable = true := fun all => by
      rw [startsCased_of_all all] at cased
      cases cased
    rw [if_neg seen, cased, Bool.not_true, Bool.and_false, Bool.and_false]
  · cases cased : startsCased front.reverse with
    | false => rw [Bool.false_and, Bool.false_and]
    | true => rw [atEnd cased, if_neg Bool.false_ne_true]

theorem length_lowerBetween (before s after before' after' : List Char) :
    (lowerBetween before s after).length = (lowerBetween before' s after').length := by
  induction s generalizing before before' with
  | nil => rfl
  | cons c rest ih =>
    rw [lowerBetween, lowerBetween, List.length_append, List.length_append,
      length_lowerAt c before (rest ++ after) before' (rest ++ after'), ih (c :: before) (c :: before')]

/-- A sigma, or a character that is passed over in the search for a cased letter. -/
def IsSigmaOrPassed (c : Char) : Prop := c = 'Σ' ∨ isCaseIgnorable c = true

theorem IsSigmaOrPassed.not_mem_lowerAt {c : Char} (h : IsSigmaOrPassed c) (before rest : List Char) :
    'x' ∉ lowerAt before c rest := by
  intro mem
  have letter : IsNative 'x' := by decide
  have lower : c.toLower = 'x' := letter.toLower_eq_of_mem_lowerAt mem
  rcases h with rfl | passed
  · exact absurd lower (by decide)
  · rw [← caseless_isCaseIgnorable, lower] at passed
    exact absurd passed (by decide +kernel)

theorem IsSigmaOrPassed.head?_ne {c : Char} (h : IsSigmaOrPassed c) (rest : List Char) :
    (lowerCase (c :: rest)).head? ≠ some 'x' := by
  intro first
  rw [lowerCase, lowerAfter, List.head?_append_of_ne_nil _ (lowerAt_ne_nil _ _ _)] at first
  exact h.not_mem_lowerAt _ _ (List.mem_of_head? first)

theorem IsSigmaOrPassed.getLast?_ne {c : Char} (h : IsSigmaOrPassed c) (before : List Char) :
    (lowerCase (before ++ [c])).getLast? ≠ some 'x' := by
  intro last
  have form (b : List Char) : lowerAfter b [c] = lowerAt b c [] := List.append_nil _
  rw [lowerCase, lowerAfter_append, form, List.getLast?_append_of_ne_nil _ (lowerAt_ne_nil _ _ _)] at last
  exact h.not_mem_lowerAt _ _ (List.mem_of_mem_getLast? last)

section Misses

variable {front back : List Char}

theorem startsCased_letter : startsCased ['x'] = true := by decide +kernel

theorem isLower_letter : IsLower 'x' := by decide

/-- Behind a letter, a sigma that nothing else comes before ends a word. -/
theorem not_infix_behind_letter (passed : front.all isCaseIgnorable = true) (uncased : startsCased back = false) :
    ¬ lowerCase (front ++ 'Σ' :: back) <:+: lowerCase ('x' :: (front ++ 'Σ' :: back)) := by
  generalize text : front ++ 'Σ' :: back = s
  have form : lowerCase ('x' :: s) = 'x' :: lowerBetween ['x'] s [] := by
    have place := lowerCase_append ['x'] s []
    rw [lowerBetween, isLower_letter.lowerAt_eq] at place
    simpa [lowerBetween, lowerAfter] using place
  have changed : lowerCase s ≠ lowerBetween ['x'] s [] := by
    intro same
    have kept := (lowerBetween_eq_iff _ _ _).1 same.symm front back text.symm
    rw [endsWord, endsWord, startsCased_append, List.all_reverse, if_pos passed, startsCased_letter,
      List.append_nil, uncased, startsCased_of_all (by rwa [List.all_reverse])] at kept
    cases kept
  have first : (lowerCase s).head? ≠ some 'x' := by
    subst text
    cases front with
    | nil => exact IsSigmaOrPassed.head?_ne (.inl rfl) _
    | cons c front =>
      rw [List.all_cons, Bool.and_eq_true] at passed
      exact IsSigmaOrPassed.head?_ne (.inr passed.1) _
  -- The form alone cannot begin at the letter, and behind it there is room for a form of its length, not for it.
  rw [form, List.infix_cons_iff]
  rintro (atStart | later)
  · rcases List.prefix_cons_iff.1 atStart with nothing | ⟨rest, begins, -⟩
    · rw [lowerCase_eq_nil_iff, ← text] at nothing
      exact absurd nothing (by simp)
    · rw [begins] at first
      exact first rfl
  · refine changed (later.eq_of_length ?_)
    rw [lowerCase_eq_lowerBetween]
    exact length_lowerBetween _ _ _ _ _

/-- Before a letter, a sigma that nothing else comes after ends no word. -/
theorem not_infix_before_letter (cased : startsCased front.reverse = true) (passed : back.all isCaseIgnorable = true) :
    ¬ lowerCase (front ++ 'Σ' :: back) <:+: lowerCase (front ++ 'Σ' :: back ++ ['x']) := by
  generalize text : front ++ 'Σ' :: back = s
  have form : lowerCase (s ++ ['x']) = lowerBetween [] s ['x'] ++ ['x'] := by
    have place := lowerCase_append [] s ['x']
    rw [lowerAfter, isLower_letter.lowerAt_eq] at place
    simpa [lowerBetween, lowerAfter] using place
  have changed : lowerCase s ≠ lowerBetween [] s ['x'] := by
    intro same
    have kept := (lowerBetween_eq_iff _ _ _).1 same.symm front back text.symm
    rw [endsWord, endsWord, startsCased_append back, if_pos passed, startsCased_letter,
      List.append_nil, cased, startsCased_of_all passed] at kept
    cases kept
  have last : (lowerCase s).getLast? ≠ some 'x' := by
    subst text
    rcases List.eq_nil_or_concat back with rfl | ⟨back, c, rfl⟩
    · exact IsSigmaOrPassed.getLast?_ne (.inl rfl) _
    · rw [List.concat_eq_append, List.all_append, Bool.and_eq_true] at passed
      have passed : isCaseIgnorable c = true := by simpa using passed.2
      rw [List.concat_eq_append, ← List.cons_append, ← List.append_assoc]
      exact IsSigmaOrPassed.getLast?_ne (.inr passed) _
  rw [form, List.infix_concat_iff]
  rintro (atEnd | earlier)
  · rcases List.suffix_concat_iff.1 atEnd with nothing | ⟨rest, ends, -⟩
    · rw [lowerCase_eq_nil_iff, ← text] at nothing
      exact absurd nothing (by simp)
    · rw [ends, List.getLast?_concat] at last
      exact last rfl
  · refine changed (earlier.eq_of_length ?_)
    rw [lowerCase_eq_lowerBetween]
    exact length_lowerBetween _ _ _ _ _

end Misses

/-- Lower-casing goes with taking parts of texts exactly for the parts that have no such sigma. -/
theorem lowerCase_infix_iff {s : List Char} :
    (∀ t, s <:+: t → lowerCase s <:+: lowerCase t) ↔ ¬ HasOpenSigma s := by
  constructor
  · rintro stands ⟨front, back, rfl, ⟨passed, uncased⟩ | ⟨cased, passed⟩⟩
    · exact not_infix_behind_letter passed uncased (stands _ (List.suffix_cons _ _).isInfix)
    · exact not_infix_before_letter cased passed (stands _ (List.prefix_append _ _).isInfix)
  · rintro closed _ ⟨before, after, rfl⟩
    rw [lowerCase_append, (lowerBetween_eq_iff _ _ _).2 (keepsSigmas_of_not_hasOpenSigma closed _ _)]
    exact List.infix_append _ _ _

end InboxAudit.Text
