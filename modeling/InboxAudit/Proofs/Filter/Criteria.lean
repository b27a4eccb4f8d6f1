import InboxAudit.Filter.Rule
import InboxAudit.Proofs.Text.LowerCase
import InboxAudit.Proofs.Text.Parts

/-!
# Criteria that stand alone

What a filter with one criterion on a header asks for. A text criterion falls into the parts between
its separators, each a candidate of its own (`Candidates.split_parts`), and a message meets it if its
header contains one of them (`Matcher.text_holds_iff`). A star has no meaning of its own
(`Candidates.split_star`).
-/

namespace InboxAudit.Filter
set_option autoImplicit false

open InboxAudit.Mail (Message)
open InboxAudit.Text

namespace Candidates

/-- A criterion up to its first separator. -/
def firstPart (s : List Char) : List Char := s.takeWhile fun c => !isSeparator c

/-- A criterion from its first separator on. -/
def otherParts (s : List Char) : List Char := s.dropWhile fun c => !isSeparator c

/-- The candidates are the parts without decoration, unless there is nothing left or the word `or`. -/
theorem mem_split_iff {raw c : List Char} :
    c ∈ split raw ↔ (∃ part ∈ pieces isSeparator raw, clean part = c) ∧ c ≠ [] ∧ isOr c = false := by
  simp [split]

theorem split_append_cons {c : Char} (separates : isSeparator c = true) (before after : List Char) :
    split (before ++ c :: after) = split before ++ split after := by
  simp only [split, pieces_append_cons separates, List.map_append, List.filter_append]

/-- The candidates of the first part come first. -/
theorem split_parts (s : List Char) : split s = split (firstPart s) ++ split (otherParts s) := by
  have whole : firstPart s ++ otherParts s = s := List.takeWhile_append_dropWhile
  have nothing : split [] = [] := by decide
  cases rest : otherParts s with
  | nil =>
    rw [rest, List.append_nil] at whole
    rw [whole, nothing, List.append_nil]
  | cons c after =>
    have separates : isSeparator c = true := by
      have stops := List.head?_dropWhile_not (fun c => !isSeparator c) s
      rw [otherParts] at rest
      simpa [rest] using stops
    have alone : split (c :: after) = split after := by
      simpa [nothing] using split_append_cons separates [] after
    rw [alone, ← split_append_cons separates, ← rest, whole]

theorem split_firstPart (s : List Char) :
    split (firstPart s) = [clean (firstPart s)].filter fun c => c ≠ [] && !isOr c := by
  have none : ∀ c ∈ firstPart s, isSeparator c = false := fun c mem => by
    simpa using List.all_eq_true.1 List.all_takeWhile c mem
  rw [split, pieces_of_none none, List.map_singleton]

theorem isWrapper_iff {c : Char} : isWrapper c = true ↔ c = '"' ∨ c = '\x27' ∨ c = '(' ∨ c = ')' := by
  simp [isWrapper, or_assoc]

/-- A wrapper is no separator, so the wrappers at the end of a criterion stand in its last part. -/
theorem isSeparator_of_isWrapper {c : Char} (wraps : isWrapper c = true) : isSeparator c = false := by
  rcases isWrapper_iff.1 wraps with rfl | rfl | rfl | rfl <;> decide

/-- Wrappers at the end of a criterion make no difference. -/
theorem split_trimEnd (s : List Char) : split (trimEnd isWrapper s) = split s := by
  obtain ⟨tail, wraps, whole⟩ := exists_trimEnd_append isWrapper s
  have none : ∀ c ∈ tail, isSeparator c = false := fun c mem => isSeparator_of_isWrapper (wraps c mem)
  obtain ⟨front, last, before, after⟩ := pieces_append_of_none none (trimEnd isWrapper s)
  have cleaned : clean (last ++ tail) = clean last := by
    rw [clean, trim_append_of_all wraps, clean]
  rw [whole] at after
  rw [split, split, before, after, List.map_append, List.map_append, List.map_singleton,
    List.map_singleton, cleaned]

/-- Before a text in lower case the star and the at sign are characters like any other. -/
theorem split_star {s : List Char} (lower : ∀ c ∈ s, IsLower c) :
    split ('*' :: '@' :: s) =
      ('*' :: '@' :: trimEnd isWrapper (firstPart s)) :: split (otherParts s) := by
  have first : firstPart ('*' :: '@' :: s) = '*' :: '@' :: firstPart s := by
    simp [firstPart, show isSeparator '*' = false by decide, show isSeparator '@' = false by decide]
  have others : otherParts ('*' :: '@' :: s) = otherParts s := by
    simp [otherParts, show isSeparator '*' = false by decide, show isSeparator '@' = false by decide]
  have trimmed : trim isWrapper ('*' :: '@' :: firstPart s) =
      '*' :: '@' :: trimEnd isWrapper (firstPart s) := by
    rw [trim, trimStart_cons_of_neg (by decide), trimEnd_cons_of_neg (by decide),
      trimEnd_cons_of_neg (by decide)]
  have cleaned : clean ('*' :: '@' :: firstPart s) = '*' :: '@' :: trimEnd isWrapper (firstPart s) := by
    rw [clean, trimmed]
    apply lowerCase_eq_self
    intro c mem
    rcases List.mem_cons.1 mem with rfl | mem
    · decide
    rcases List.mem_cons.1 mem with rfl | mem
    · decide
    · exact lower c ((List.takeWhile_prefix _).mem ((isPrefix_trimEnd _ _).mem mem))
  rw [split_parts, first, others, ← first, split_firstPart, first, cleaned]
  simp [isOr, sameAsciiCase]

end Candidates

theorem contains_iff {s needle : String} : contains s needle = true ↔ needle.toList <:+: s.toList :=
  occursIn_iff

theorem Matcher.text_holds_iff {field : Field} {candidates : List (List Char)} {m : Message} :
    (Matcher.text field (candidates.map String.ofList)).holds m = true ↔
      ∃ c ∈ candidates, c <:+: lowerCase (m.header field.header).toList := by
  simp [Matcher.holds, contains_iff]

theorem Matcher.list_holds_iff {id : String} {m : Message} :
    (Matcher.list id).holds m = true ↔ id.toList <:+: (Mail.listId (m.header "List-Id")).toList :=
  contains_iff

/-- Criteria on the sender alone. -/
def Criteria.ofSender (value : String) : Criteria := { Criteria.empty with sender := value }

/-- Criteria on one text header alone. -/
def Criteria.ofField (field : Field) (value : String) : Criteria :=
  match field with
  | .sender => Criteria.ofSender value
  | .recipient => { Criteria.empty with recipient := value }
  | .subject => { Criteria.empty with subject := value }

/-- Criteria on the list alone. -/
def Criteria.ofList (value : String) : Criteria := { Criteria.empty with list := value }

/-- The tests of a rule are those of its criteria. -/
theorem matchers_toRule (names : Table String) (f : Filter) :
    (f.toRule names).matchers = f.criteria.matchers := by
  rw [toRule]

/-- Criteria can be replayed if their query can and there is something to look for. -/
theorem Criteria.matchers_eq_ok_iff {c : Criteria} {matchers : List Matcher} :
    c.matchers = .ok matchers ↔ matchers ≠ [] ∧
      ∃ found, c.queryMatchers = .ok found ∧ matchers = c.headerMatchers ++ found := by
  unfold Criteria.matchers
  cases c.queryMatchers with
  | error reason => simp
  | ok found =>
    dsimp only
    cases all : c.headerMatchers ++ found with
    | nil => simp +contextual [all]
    | cons first rest =>
      constructor
      · rintro ⟨⟩
        exact ⟨List.cons_ne_nil _ _, found, rfl, all.symm⟩
      · rintro ⟨-, _, ⟨⟩, rfl⟩
        rw [all]

theorem Criteria.matchers_of_noQuery {c : Criteria} (noQuery : c.query = "") :
    c.matchers = match c.headerMatchers with
      | [] => .error .noMatchers
      | matchers => .ok matchers := by
  have blank : c.queryMatchers = .ok [] := by
    rw [queryMatchers, noQuery, if_pos (by decide)]
  cases header : c.headerMatchers <;> simp only [Criteria.matchers, blank, header, List.append_nil]

/-- A criterion on a text header is the test that it makes, if it makes one. -/
theorem Criteria.matchers_ofField (field : Field) (value : String) :
    (Criteria.ofField field value).matchers = match Query.textMatcher? field value with
      | none => .error .noMatchers
      | some t => .ok [t] := by
  have nothing (field : Field) : Query.textMatcher? field "" = none := by cases field <;> decide
  have noList : Query.listMatcher? "" = none := by decide
  cases field <;> rw [Criteria.matchers_of_noQuery rfl] <;>
    simp only [Criteria.headerMatchers, Criteria.ofField, Criteria.ofSender, Criteria.empty, nothing, noList] <;>
    cases Query.textMatcher? _ value <;> rfl

theorem Criteria.matchers_ofSender {value : String} (filled : Candidates.ofText value ≠ []) :
    (Criteria.ofSender value).matchers = .ok [.text .sender (Candidates.ofText value)] := by
  have same : Criteria.ofSender value = Criteria.ofField .sender value := rfl
  rw [same, matchers_ofField, Query.textMatcher?, if_neg filled]

theorem Criteria.matchers_ofList {value : String} (filled : Mail.listId value ≠ "") :
    (Criteria.ofList value).matchers = .ok [.list (Mail.listId value)] := by
  have nothing : Candidates.ofText "" = [] := by decide
  have header : (Criteria.ofList value).headerMatchers = [.list (Mail.listId value)] := by
    simp [Criteria.headerMatchers, Criteria.ofList, Criteria.empty, Query.textMatcher?,
      Query.listMatcher?, filled, nothing]
  rw [Criteria.matchers_of_noQuery rfl, header]

end InboxAudit.Filter
