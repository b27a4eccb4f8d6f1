import InboxAudit.Proofs.Mail.ListId
import InboxAudit.Proofs.Text.Marks

/-!
# Decorated list identifiers

A text falls into an opening run of brackets and white space, the text inside, and a closing run. If
the inside is on one line and unquoted, the runs are all that is taken off it (`normalize_of_inside`),
so they make no difference to the identifier (`listId_of_isDecorated`).

Brackets and quotes come off in turn and once only. So a text is read as itself exactly if neither is
left at its ends (`core_eq_self_iff`), and an identifier, which has no quotes there, is read back
exactly if it has no brackets and no white space there (`listId_listId_eq_iff`).
-/

namespace InboxAudit.Mail.ListId
set_option autoImplicit false

open InboxAudit.Text

/-- The text between the opening and the closing run of brackets and white space. -/
def inside (s : List Char) : List Char := trimEnd isClosing (trimStart isOpening s)

/-- No bracket and no white space is left at the ends of the text. -/
structure IsSettled (s : List Char) : Prop where
  begins : ∀ c ∈ s.head?, isOpening c = false
  ends : ∀ c ∈ s.getLast?, isClosing c = false

/-- No quote stands at the ends of the text. -/
structure IsUnquoted (s : List Char) : Prop where
  begins : '"' ∉ s.head?
  ends : '"' ∉ s.getLast?

variable {s : List Char}

section Classes

variable {c : Char}

theorem isOpening_iff : isOpening c = true ↔ c = '<' ∨ isBlank c = true := by
  rw [isOpening, Bool.or_eq_true, decide_eq_true_eq]

theorem isClosing_iff : isClosing c = true ↔ c = '>' ∨ isBlank c = true := by
  rw [isClosing, Bool.or_eq_true, decide_eq_true_eq]

theorem isOpening_eq_false_iff : isOpening c = false ↔ c ≠ '<' ∧ isBlank c = false := by
  rw [← Bool.not_eq_true, isOpening_iff, not_or, Bool.not_eq_true]

theorem isClosing_eq_false_iff : isClosing c = false ↔ c ≠ '>' ∧ isBlank c = false := by
  rw [← Bool.not_eq_true, isClosing_iff, not_or, Bool.not_eq_true]

theorem isQuote_eq_false (noQuote : c ≠ '"') (solid : isBlank c = false) : isQuote c = false := by
  have noSpace : c ≠ ' ' := by
    rintro rfl
    exact absurd solid (by decide)
  simp [isQuote, noQuote, noSpace]

theorem isMark_of_isOpening (opens : isOpening c = true) : IsMark c := by
  rcases isOpening_iff.1 opens with rfl | blank
  · exact isMark_of_noLetter (by decide) (by decide)
  · exact isMark_of_isBlank blank

theorem isMark_of_isClosing (closes : isClosing c = true) : IsMark c := by
  rcases isClosing_iff.1 closes with rfl | blank
  · exact isMark_of_noLetter (by decide) (by decide)
  · exact isMark_of_isBlank blank

end Classes

theorem isSettled_inside (s : List Char) : IsSettled (inside s) := by
  constructor
  · exact fun c first => head?_trimStart (head?_of_isPrefix (isPrefix_trimEnd _ _) first)
  · exact fun c last => getLast?_trimEnd last

/-- The white space that is taken off first is part of the runs. -/
theorem inside_strip (s : List Char) : inside (strip s) = inside s := by
  have opens (c : Char) (blank : isBlank c = true) : isOpening c = true := isOpening_iff.2 (.inr blank)
  have closes (c : Char) (blank : isBlank c = true) : isClosing c = true := isClosing_iff.2 (.inr blank)
  rw [inside, strip, trim, trimStart_trimEnd, trimStart_trimStart opens, trimEnd_trimEnd closes, inside]

theorem unwrap_strip (s : List Char) :
    unwrap (strip s) = if '\n' ∈ inside s then dropOpening (dropClosing (strip s)) else inside s := by
  rw [unwrap, ← inside, inside_strip]

/-- The runs around a text that is settled are all that is taken off it. -/
theorem inside_append {opening closing : List Char} (opens : ∀ c ∈ opening, isOpening c = true)
    (closes : ∀ c ∈ closing, isClosing c = true) (filled : s ≠ []) (settled : IsSettled s) :
    inside (opening ++ s ++ closing) = s := by
  obtain ⟨c, rest, rfl⟩ := List.exists_cons_of_ne_nil filled
  have first : isOpening c = false := settled.begins c rfl
  rw [inside, List.append_assoc, trimStart_append_of_all opens, List.cons_append,
    trimStart_cons_of_neg first, ← List.cons_append, trimEnd_append_of_all closes]
  exact trimEnd_eq_self_iff.2 settled.ends

theorem trim_isQuote (settled : IsSettled s) (unquoted : IsUnquoted s) : trim isQuote s = s := by
  rw [trim_eq_self_iff]
  constructor
  · intro c first
    refine isQuote_eq_false ?_ (isOpening_eq_false_iff.1 (settled.begins c first)).2
    rintro rfl
    exact unquoted.begins first
  · intro c last
    refine isQuote_eq_false ?_ (isClosing_eq_false_iff.1 (settled.ends c last)).2
    rintro rfl
    exact unquoted.ends last

theorem normalize_of_inside (oneLine : '\n' ∉ inside s) (unquoted : IsUnquoted (inside s)) :
    normalize s = lowerCase (inside s) := by
  rw [normalize, unwrap_strip, if_neg oneLine, trim_isQuote (isSettled_inside s) unquoted]

theorem dropOpening_eq_self_iff : dropOpening s = s ↔ '<' ∉ s.head? := by
  cases s with
  | nil => simp [dropOpening]
  | cons c rest =>
    rw [dropOpening_cons]
    by_cases opens : c = '<' <;> simp [opens]

theorem dropClosing_eq_self_iff : dropClosing s = s ↔ '>' ∉ s.getLast? := by
  rcases List.eq_nil_or_concat s with rfl | ⟨front, c, rfl⟩
  · simp [dropClosing]
  · rw [List.concat_eq_append, dropClosing_concat]
    by_cases closes : c = '>' <;> simp [closes]

/-- A text that unwrapping leaves alone has no bracket at its ends. -/
theorem brackets_of_unwrap_eq (same : unwrap s = s) : '<' ∉ s.head? ∧ '>' ∉ s.getLast? := by
  rcases unwrap_cases s with eq | eq <;> rw [same] at eq
  · have closing : dropClosing s = s := by
      apply (isInfix_dropClosing s).eq_of_length_le
      have shorter := (isInfix_dropOpening (dropClosing s)).length_le
      rwa [← eq] at shorter
    rw [closing] at eq
    exact ⟨dropOpening_eq_self_iff.1 eq.symm, dropClosing_eq_self_iff.1 closing⟩
  · have settled : IsSettled s := eq ▸ isSettled_inside s
    constructor
    · exact fun first => absurd (settled.begins _ first) (by decide)
    · exact fun last => absurd (settled.ends _ last) (by decide)

theorem core_eq_self (settled : IsSettled s) (unquoted : IsUnquoted s) :
    trim isQuote (unwrap (strip s)) = s := by
  have stripped : strip s = s := by
    apply trim_eq_self_iff.2
    exact ⟨fun c first => (isOpening_eq_false_iff.1 (settled.begins c first)).2,
      fun c last => (isClosing_eq_false_iff.1 (settled.ends c last)).2⟩
  have whole : inside s = s := by
    rw [inside, trimStart_eq_self_iff.2 settled.begins, trimEnd_eq_self_iff.2 settled.ends]
  have noOpening : dropOpening s = s :=
    dropOpening_eq_self_iff.2 fun first => absurd (settled.begins _ first) (by decide)
  have noClosing : dropClosing s = s :=
    dropClosing_eq_self_iff.2 fun last => absurd (settled.ends _ last) (by decide)
  rw [unwrap_strip, stripped, whole, noClosing, noOpening, ite_self, trim_isQuote settled unquoted]

/-- Each step takes a part of the text, so where the core is the whole text none of them takes less. -/
theorem steps_of_core_eq (same : trim isQuote (unwrap (strip s)) = s) :
    strip s = s ∧ unwrap s = s ∧ trim isQuote s = s := by
  have quotes := (isInfix_trim isQuote (unwrap (strip s))).length_le
  have wraps := (isInfix_unwrap (strip s)).length_le
  rw [same] at quotes
  have stripped : strip s = s := (isInfix_trim isBlank s).eq_of_length_le (Nat.le_trans quotes wraps)
  rw [stripped] at same quotes
  have unwrapped : unwrap s = s := (isInfix_unwrap s).eq_of_length_le quotes
  rw [unwrapped] at same
  exact ⟨stripped, unwrapped, same⟩

theorem settled_of_core_eq (same : trim isQuote (unwrap (strip s)) = s) : IsSettled s ∧ IsUnquoted s := by
  obtain ⟨stripped, unwrapped, quoted⟩ := steps_of_core_eq same
  obtain ⟨solidFirst, solidLast⟩ := trim_eq_self_iff.1 stripped
  obtain ⟨noOpening, noClosing⟩ := brackets_of_unwrap_eq unwrapped
  obtain ⟨plainFirst, plainLast⟩ := trim_eq_self_iff.1 quoted
  refine ⟨⟨fun c first => ?_, fun c last => ?_⟩, ⟨fun first => ?_, fun last => ?_⟩⟩
  · refine isOpening_eq_false_iff.2 ⟨?_, solidFirst c first⟩
    rintro rfl
    exact noOpening first
  · refine isClosing_eq_false_iff.2 ⟨?_, solidLast c last⟩
    rintro rfl
    exact noClosing last
  · exact absurd (plainFirst _ first) (by decide)
  · exact absurd (plainLast _ last) (by decide)

/-- A text is its own core exactly if nothing is left to take off its ends. -/
theorem core_eq_self_iff : trim isQuote (unwrap (strip s)) = s ↔ IsSettled s ∧ IsUnquoted s :=
  ⟨settled_of_core_eq, fun h => core_eq_self h.1 h.2⟩

/-- Lower-casing leaves the ends of a text as settled as they were. -/
theorem IsSettled.lowerCase (settled : IsSettled s) : IsSettled (lowerCase s) := by
  constructor
  · intro c first
    exact eq_false_of_isMark isMark_of_isOpening fun mark => settled.begins c (mark.head?_lowerCase first)
  · intro c last
    exact eq_false_of_isMark isMark_of_isClosing fun mark => settled.ends c (mark.getLast?_lowerCase last)

theorem isUnquoted_normalize (raw : List Char) : IsUnquoted (normalize raw) := by
  have quote : IsMark '"' := isMark_of_noLetter (by decide) (by decide)
  constructor
  · intro first
    exact absurd (head?_trim (quote.head?_lowerCase first)) (by decide)
  · intro last
    exact absurd (getLast?_trim (quote.getLast?_lowerCase last)) (by decide)

theorem normalize_normalize_eq_iff (raw : List Char) :
    normalize (normalize raw) = normalize raw ↔ IsSettled (normalize raw) := by
  rw [normalize_eq_core fun c => isLower_of_mem_normalize, core_eq_self_iff]
  exact and_iff_left (isUnquoted_normalize raw)

theorem isSettled_normalize (oneLine : '\n' ∉ inside s) (unquoted : IsUnquoted (inside s)) :
    IsSettled (normalize s) := by
  rw [normalize_of_inside oneLine unquoted]
  exact (isSettled_inside s).lowerCase

/-- A text on one line without brackets, quotes and white space at its ends. -/
structure IsBare (s : List Char) : Prop where
  filled : s ≠ []
  oneLine : '\n' ∉ s
  settled : IsSettled s
  unquoted : IsUnquoted s

end InboxAudit.Mail.ListId

namespace InboxAudit.Mail

open ListId

/-- The text is another one between an opening and a closing run of brackets and white space. -/
def IsDecorated (text id : String) : Prop :=
  ∃ opening closing : String, text = opening ++ id ++ closing ∧
    (∀ c ∈ opening.toList, isOpening c = true) ∧ ∀ c ∈ closing.toList, isClosing c = true

theorem listId_of_isDecorated {text id : String} (bare : IsBare id.toList) (decorated : IsDecorated text id) :
    listId text = String.ofList (Text.lowerCase id.toList) := by
  obtain ⟨opening, closing, rfl, opens, closes⟩ := decorated
  have whole : inside (opening ++ id ++ closing).toList = id.toList := by
    rw [String.toList_append, String.toList_append]
    exact inside_append opens closes bare.filled bare.settled
  rw [listId, normalize_of_inside (whole.symm ▸ bare.oneLine) (whole.symm ▸ bare.unquoted), whole]

/-- An identifier that is read again is a part of itself, and all of itself exactly if no bracket and no white
space is left at its ends. Nothing is left there if what the header has between its brackets is on one line and
unquoted. -/
theorem listId_listId_eq_iff (raw : String) :
    (listId (listId raw)).toList <:+: (listId raw).toList ∧
      (listId (listId raw) = listId raw ↔ IsSettled (listId raw).toList) ∧
      ('\n' ∉ inside raw.toList → IsUnquoted (inside raw.toList) → listId (listId raw) = listId raw) := by
  have iff : listId (listId raw) = listId raw ↔ IsSettled (listId raw).toList := by
    simp only [listId, String.toList_ofList, String.ofList_inj]
    exact normalize_normalize_eq_iff raw.toList
  refine ⟨isInfix_listId_listId raw, iff, fun oneLine unquoted => iff.2 ?_⟩
  rw [listId, String.toList_ofList]
  exact isSettled_normalize oneLine unquoted

theorem listId_listId_eq_described :
    let raw := " Weekly \"News\" <News.example.org> "
    ('\n' ∉ inside raw.toList ∧ IsUnquoted (inside raw.toList)) ∧
      listId raw = "weekly \"news\" <news.example.org" ∧ listId (listId raw) = listId raw := by
  intro raw
  have oneLine : '\n' ∉ inside raw.toList := by decide
  have unquoted : IsUnquoted (inside raw.toList) := ⟨by decide, by decide⟩
  exact ⟨⟨oneLine, unquoted⟩, by decide, (listId_listId_eq_iff raw).2.2 oneLine unquoted⟩

/-- One layer of brackets comes off a text that spans lines, and quotes come off after brackets: what was
under them is left for the next time. -/
theorem listId_listId_ne :
    let spanning := "<<news\n.example>>"
    let quoted := "\"<News.example>\""
    (listId spanning = "<news\n.example>" ∧ listId (listId spanning) ≠ listId spanning) ∧
      listId quoted = "<news.example>" ∧ listId (listId quoted) ≠ listId quoted := by
  decide

end InboxAudit.Mail
