import InboxAudit.Mail.ListId
import InboxAudit.Proofs.Text.LowerCase
import InboxAudit.Proofs.Text.Parts

/-!
# List identifiers read again

The compared form of a list identifier is in lower case, and bringing it into that form once more
takes a part of it (`isInfix_listId_listId`). That part need not be all of it (quotes outside of brackets
and brackets inside come off one layer at a time), but it holds every character that is no decoration
(`mem_listId_listId`).
-/

namespace InboxAudit.Mail.ListId
set_option autoImplicit false

open InboxAudit.Text

/-- White space, a double quote or an angle bracket. -/
def isDecoration (c : Char) : Bool := isOpening c || isClosing c || isQuote c

theorem dropOpening_cons (c : Char) (rest : List Char) :
    dropOpening (c :: rest) = if c = '<' then rest else c :: rest := by
  by_cases opens : c = '<' <;> simp [dropOpening, opens]

theorem dropClosing_concat (s : List Char) (c : Char) :
    dropClosing (s ++ [c]) = if c = '>' then s else s ++ [c] := by
  by_cases closes : c = '>' <;> simp [dropClosing, closes]

theorem isInfix_dropOpening (s : List Char) : dropOpening s <:+: s := by
  unfold dropOpening
  split
  · exact (List.suffix_cons _ _).isInfix
  · exact List.infix_rfl

theorem isInfix_dropClosing (s : List Char) : dropClosing s <:+: s := by
  unfold dropClosing
  split
  · next rest eq =>
    have whole : s = rest.reverse ++ ['>'] := by simpa using congrArg List.reverse eq
    rw [whole]
    exact (List.prefix_append _ _).isInfix
  · exact List.infix_rfl

theorem unwrap_cases (s : List Char) :
    unwrap s = dropOpening (dropClosing s) ∨ unwrap s = trimEnd isClosing (trimStart isOpening s) := by
  by_cases broken : '\n' ∈ trimEnd isClosing (trimStart isOpening s)
  · exact .inl (if_pos broken)
  · exact .inr (if_neg broken)

theorem isInfix_unwrap (s : List Char) : unwrap s <:+: s := by
  rcases unwrap_cases s with eq | eq <;> rw [eq]
  · exact (isInfix_dropOpening _).trans (isInfix_dropClosing s)
  · exact (isPrefix_trimEnd _ _).isInfix.trans (isSuffix_trimStart _ s).isInfix

/-- What is left of a text before it is brought into lower case. -/
theorem isInfix_core (s : List Char) : trim isQuote (unwrap (strip s)) <:+: s :=
  (isInfix_trim _ _).trans ((isInfix_unwrap _).trans (isInfix_trim _ s))

section Kept

variable {s : List Char} {c : Char}

theorem mem_dropOpening (plain : isDecoration c = false) (mem : c ∈ s) : c ∈ dropOpening s := by
  unfold dropOpening
  split
  · rcases List.mem_cons.1 mem with rfl | mem
    · cases plain
    · exact mem
  · exact mem

theorem mem_dropClosing (plain : isDecoration c = false) (mem : c ∈ s) : c ∈ dropClosing s := by
  unfold dropClosing
  split
  · next rest eq =>
    rw [← List.mem_reverse, eq] at mem
    rcases List.mem_cons.1 mem with rfl | mem
    · cases plain
    · exact List.mem_reverse.2 mem
  · exact mem

theorem mem_core (plain : isDecoration c = false) (mem : c ∈ s) :
    c ∈ trim isQuote (unwrap (strip s)) := by
  have ⟨⟨opening, closing⟩, quote⟩ : (isOpening c = false ∧ isClosing c = false) ∧ isQuote c = false := by
    simpa [isDecoration] using plain
  have blank : isBlank c = false := (by simpa [isOpening] using opening : _ ∧ _).2
  have stripped : c ∈ strip s := mem_trim blank mem
  apply mem_trim quote
  rcases unwrap_cases (strip s) with eq | eq <;> rw [eq]
  · exact mem_dropOpening plain (mem_dropClosing plain stripped)
  · exact mem_trimEnd closing (mem_trimStart opening stripped)

end Kept

theorem isLower_of_mem_normalize {raw : List Char} {c : Char} (h : c ∈ normalize raw) : IsLower c :=
  isLower_of_mem_lowerCase h

/-- An ASCII character of the compared form that is no letter stands in the text. -/
theorem mem_of_mem_normalize {raw : List Char} {c : Char} (ascii : c.toNat < 0x80)
    (noLetter : c.isAlpha = false) (h : c ∈ normalize raw) : c ∈ raw :=
  (isInfix_core raw).mem (mem_of_mem_lowerCase ascii noLetter h)

/-- Of a text in lower case the compared form is the core. -/
theorem normalize_eq_core {s : List Char} (lower : ∀ c ∈ s, IsLower c) :
    normalize s = trim isQuote (unwrap (strip s)) :=
  lowerCase_eq_self fun c mem => lower c ((isInfix_core s).mem mem)

end InboxAudit.Mail.ListId

namespace InboxAudit.Mail

open ListId

/-- Read again, an identifier names a part of itself. -/
theorem isInfix_listId_listId (raw : String) : (listId (listId raw)).toList <:+: (listId raw).toList := by
  have lower : ∀ c ∈ normalize raw.toList, Text.IsLower c := fun c => isLower_of_mem_normalize
  simp only [listId, String.toList_ofList, normalize_eq_core lower]
  exact isInfix_core _

/-- Read again, an identifier keeps the characters that are no decoration. -/
theorem mem_listId_listId {raw : String} {c : Char} (plain : isDecoration c = false)
    (mem : c ∈ (listId raw).toList) : c ∈ (listId (listId raw)).toList := by
  have lower : ∀ c ∈ normalize raw.toList, Text.IsLower c := fun c => isLower_of_mem_normalize
  simp only [listId, String.toList_ofList, normalize_eq_core lower] at mem ⊢
  exact mem_core plain mem

end InboxAudit.Mail
