import InboxAudit.Proofs.Filter.Occurrence
import InboxAudit.Proofs.Text.Marks

/-!
# Candidates split again

A candidate is its own only candidate, and the texts of which this holds have a form that can be told by their
characters (`IsCandidate`). Separators and wrappers are marks: lower-casing makes none, so none comes up in a part
that had none (`isCandidate_of_mem`). Nothing looks across a separator (`ofText_append`), and so candidates that are
joined by separators, whatever these are, come apart again as they were (`candidates_compositional`).
-/

namespace InboxAudit.Filter
set_option autoImplicit false

open InboxAudit.Text

namespace Candidates

section Marks

variable {c : Char}

theorem isSeparator_iff : isSeparator c = true ↔ isBlank c = true ∨ c = ',' ∨ c = ';' ∨ c = '|' := by
  simp [isSeparator, or_assoc]

theorem isMark_of_isSeparator (separates : isSeparator c = true) : IsMark c := by
  rcases isSeparator_iff.1 separates with blank | rfl | rfl | rfl
  · exact isMark_of_isBlank blank
  · exact isMark_of_noLetter (by decide) (by decide)
  · exact isMark_of_noLetter (by decide) (by decide)
  · exact isMark_of_noLetter (by decide) (by decide)

theorem isMark_of_isWrapper (wraps : isWrapper c = true) : IsMark c := by
  rcases isWrapper_iff.1 wraps with rfl | rfl | rfl | rfl <;> exact isMark_of_noLetter (by decide) (by decide)

end Marks

section Clean

variable {part : List Char} {d : Char}

/-- A part without separators has none when its decoration is taken off. -/
theorem isSeparator_of_mem_clean (none : ∀ c ∈ part, isSeparator c = false) (mem : d ∈ clean part) :
    isSeparator d = false :=
  eq_false_of_isMark isMark_of_isSeparator fun mark =>
    none d ((isInfix_trim _ _).mem (mark.mem_of_mem_lowerAfter mem))

theorem isWrapper_of_head?_clean (first : d ∈ (clean part).head?) : isWrapper d = false :=
  eq_false_of_isMark isMark_of_isWrapper fun mark => head?_trim (mark.head?_lowerCase first)

theorem isWrapper_of_getLast?_clean (last : d ∈ (clean part).getLast?) : isWrapper d = false :=
  eq_false_of_isMark isMark_of_isWrapper fun mark => getLast?_trim (mark.getLast?_lowerCase last)

end Clean

/-- The form of a candidate: a text in lower case without separators in it and wrappers at its ends, which is neither
empty nor the word `or`. -/
structure IsCandidate (c : String) : Prop where
  filled : c ≠ ""
  noOr : c ≠ "or"
  lower : ∀ d ∈ c.toList, IsLower d
  whole : ∀ d ∈ c.toList, isSeparator d = false
  begins : ∀ d ∈ c.toList.head?, isWrapper d = false
  ends : ∀ d ∈ c.toList.getLast?, isWrapper d = false

section Forms

variable {raw c : String}

theorem isCandidate_of_mem (mem : c ∈ ofText raw) : IsCandidate c := by
  obtain ⟨s, listed, rfl⟩ := List.mem_map.1 mem
  obtain ⟨⟨part, stands, rfl⟩, filled, noOr⟩ := mem_split_iff.1 listed
  have none : ∀ d ∈ part, isSeparator d = false := eq_false_of_mem_pieces stands
  constructor
  case filled => rwa [Ne, String.ofList_eq_empty_iff]
  case noOr =>
    intro same
    have word : clean part = ['o', 'r'] := String.ofList_injective same
    rw [word] at noOr
    exact absurd noOr (by decide)
  all_goals rw [String.toList_ofList]
  case lower => exact fun d inside => isLower_of_mem_lowerCase inside
  case whole => exact fun d inside => isSeparator_of_mem_clean none inside
  case begins => exact fun d first => isWrapper_of_head?_clean first
  case ends => exact fun d last => isWrapper_of_getLast?_clean last

theorem IsCandidate.clean_eq (h : IsCandidate c) : clean c.toList = c.toList := by
  rw [clean, trim_eq_self_iff.2 ⟨h.begins, h.ends⟩, lowerCase_eq_self h.lower]

theorem IsCandidate.isOr_eq_false (h : IsCandidate c) : isOr c.toList = false := by
  rw [Bool.eq_false_iff, Ne, isOr_iff, lowerCase_eq_self h.lower]
  exact fun word => h.noOr (String.toList_injective word)

theorem IsCandidate.ofText_eq (h : IsCandidate c) : ofText c = [c] := by
  have filled : c.toList ≠ [] := String.toList_eq_nil_iff.not.2 h.filled
  have alone : split c.toList = [c.toList] := by
    rw [split, pieces_of_none h.whole, List.map_singleton, h.clean_eq]
    simp [filled, h.isOr_eq_false]
  rw [ofText, alone, List.map_singleton, String.ofList_toList]

/-- The texts of this form are those that are their own only candidate. -/
theorem ofText_eq_singleton_iff : ofText c = [c] ↔ IsCandidate c := by
  constructor
  · intro alone
    have mem : c ∈ ofText c := by
      rw [alone]
      exact List.mem_singleton_self c
    exact isCandidate_of_mem mem
  · exact IsCandidate.ofText_eq

end Forms

/-- The two sides of a separator have their candidates each on its own. -/
theorem ofText_append {s : Char} (separates : isSeparator s = true) (a b : String) :
    ofText (a ++ String.singleton s ++ b) = ofText a ++ ofText b := by
  have sides : (a ++ String.singleton s ++ b).toList = a.toList ++ s :: b.toList := by simp
  rw [ofText, sides, split_append_cons separates, List.map_append, ofText, ofText]

/-- The text has the candidates in their order, with separators between them and maybe around them. -/
inductive Joins : List String → String → Prop where
  | nil : Joins [] ""
  | last (c : String) : Joins [c] c
  | gap {s : Char} {cs : List String} {text : String} (separates : isSeparator s = true) (rest : Joins cs text) :
      Joins cs (String.singleton s ++ text)
  | cons (c : String) {s : Char} {cs : List String} {text : String} (separates : isSeparator s = true)
      (rest : Joins cs text) : Joins (c :: cs) (c ++ String.singleton s ++ text)

theorem Joins.ofText_eq {cs : List String} {text : String} (joined : Joins cs text)
    (each : ∀ c ∈ cs, IsCandidate c) : ofText text = cs := by
  have nothing : ofText "" = [] := by decide
  induction joined with
  | nil => exact nothing
  | last c => exact (List.forall_mem_singleton.1 each).ofText_eq
  | @gap s cs text separates rest ih =>
    have front := ofText_append separates "" text
    rw [String.empty_append, nothing, List.nil_append] at front
    rw [front, ih each]
  | cons c separates rest ih =>
    obtain ⟨first, others⟩ := List.forall_mem_cons.1 each
    rw [ofText_append separates, first.ofText_eq, ih others, List.singleton_append]

end Candidates

open Candidates (IsCandidate Joins isSeparator ofText)

/-- The candidates of a text with a separator in it are those of the text before it and those of the text after it.
A candidate of any text is its own only candidate, which holds of the texts in the form of a candidate and of no
others. So a text in which the candidates of another one are joined by separators has the same candidates. -/
theorem candidates_compositional :
    (∀ (a b : String) (s : Char), isSeparator s = true →
      ofText (a ++ String.singleton s ++ b) = ofText a ++ ofText b) ∧
    (∀ raw, ∀ c ∈ ofText raw, ofText c = [c]) ∧
    (∀ c, ofText c = [c] ↔ IsCandidate c) ∧
    ∀ raw text, Joins (ofText raw) text → ofText text = ofText raw := by
  refine ⟨?_, ?_, ?_, ?_⟩
  · exact fun a b s separates => Candidates.ofText_append separates a b
  · exact fun raw c mem => (Candidates.isCandidate_of_mem mem).ofText_eq
  · exact fun c => Candidates.ofText_eq_singleton_iff
  · exact fun raw text joined => joined.ofText_eq fun c mem => Candidates.isCandidate_of_mem mem

/-- A final sigma, a letter that becomes two characters and a wrapper within a part, joined by other separators. -/
theorem candidates_compositional_motley :
    let raw := "(\"ΟΔΟΣ\"),Ann OR\u2003b(ob)|İ"
    let cs := ["οδος", "ann", "b(ob", "i\u0307"]
    let text := "|οδος ;ann,b(ob\u2003i\u0307;"
    (isSeparator '\u2003' = true ∧ ofText raw = cs ∧ Joins cs text) ∧ (∀ c ∈ cs, ofText c = [c]) ∧
      ofText text = cs ∧ ofText (raw ++ String.singleton '\u2003' ++ text) = cs ++ cs := by
  intro raw cs text
  have wide : isSeparator '\u2003' = true := by decide
  have candidates : ofText raw = cs := by decide +kernel
  have joined : Joins cs text :=
    .gap (s := '|') (by decide) <| .cons _ (s := ' ') (by decide) <| .gap (s := ';') (by decide) <|
      .cons _ (s := ',') (by decide) <| .cons _ wide <| .cons _ (s := ';') (by decide) .nil
  obtain ⟨sides, own, -, back⟩ := candidates_compositional
  have same : ofText text = cs := by
    rw [← candidates] at joined ⊢
    exact back raw text joined
  refine ⟨⟨wide, candidates, joined⟩, ?_, same, ?_⟩
  · rw [← candidates]
    exact own raw
  · rw [sides raw text _ wide, candidates, same]

end InboxAudit.Filter
