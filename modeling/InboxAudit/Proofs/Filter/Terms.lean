import InboxAudit.Proofs.Filter.LetterCase
import InboxAudit.Proofs.Filter.Query

/-!
# Terms and criteria

A value is looked for in the same way whether a query asks for it or a criterion does. The query strips the
word as a whole before it reads the keyword, and the criterion strips the parts of its value; but a keyword has no
wrappers, and those at the end of the value stand at the end of its last part (`toOption_parse_term`). The case of
the keyword makes no difference to a query (`Criteria.SameUpToCase.toOption_matchers`), so both have the same test,
or none (`term_asks_as_criterion`).
-/

namespace InboxAudit.Filter
set_option autoImplicit false

open InboxAudit.Text

variable {field : Field} {value : String}

/-- A query for a value without white space has the test of the criterion and no other. -/
theorem Query.toOption_parse_term (whole : ∀ c ∈ value.toList, isBlank c = false) :
    (parse (term field value)).toOption = (textMatcher? field value).map fun t => [t] := by
  have read : (readWord (fieldWord field (trimEnd Candidates.isWrapper value.toList))).toOption =
      textMatcher? field value := by
    rw [toOption_readWord, if_neg (head?_fieldWord_ne field _), wordMatcher?_fieldWord, textMatcher?_trimEnd]
  have single : parse (term field value) =
      [fieldWord field (trimEnd Candidates.isWrapper value.toList)].mapM readWord := by
    rw [parse, toList_term, queryWords_fieldWord field whole]
  rw [single, toOption_mapM, List.mapM_cons, List.mapM_nil, read]
  cases textMatcher? field value <;> rfl

theorem Query.stripText_term_ne_empty (field : Field) (value : String) : stripText (term field value) ≠ "" := by
  have shown : isBlank ':' = false := by decide
  have kept : ':' ∈ strip (term field value).toList := mem_trim shown (by simp [toList_term, fieldWord])
  rw [Ne, stripText, String.ofList_eq_empty_iff]
  exact List.ne_nil_of_mem kept

/-- The criteria that differ in the case of their keyword have the same tests, if any. -/
theorem Criteria.toOption_matchers_ofQuery {key : String} (keyword : SameText key field.keyword)
    (whole : ∀ c ∈ value.toList, isBlank c = false) :
    (Criteria.ofQuery (key ++ ":" ++ value)).matchers.toOption =
      (Query.textMatcher? field value).map fun t => [t] := by
  have same : SameText (key ++ ":" ++ value) (Query.term field value) := by
    have keys := sameAsciiCase_iff.1 keyword
    rw [SameText, sameAsciiCase_iff, Query.term]
    simp only [foldCase, String.toList_append, List.map_append] at keys ⊢
    rw [keys]
  have criteria : (Criteria.ofQuery (key ++ ":" ++ value)).SameUpToCase (Criteria.ofQuery (Query.term field value)) :=
    ⟨rfl, rfl, rfl, same, rfl⟩
  rw [criteria.toOption_matchers, matchers_of_visible (Query.stripText_term_ne_empty field value),
    Query.toOption_parse_term whole]

theorem Criteria.toOption_matchers_ofField (field : Field) (value : String) :
    (Criteria.ofField field value).matchers.toOption = (Query.textMatcher? field value).map fun t => [t] := by
  rw [matchers_ofField]
  cases Query.textMatcher? field value <;> rfl

/-- A filter that asks in its query for a value of a text header, with the keyword in any case, and a filter that has
the value as its criterion on that header: neither can be replayed if the value holds no candidate, and else both
can, with one and the same test. -/
theorem term_asks_as_criterion {key : String} (keyword : SameText key field.keyword)
    (whole : ∀ c ∈ value.toList, isBlank c = false) {f g : Filter}
    (asks : f.criteria = Criteria.ofQuery (key ++ ":" ++ value)) (gives : g.criteria = Criteria.ofField field value)
    (names names' : Table String) :
    let asked := f.toRule names
    let given := g.toRule names'
    (Candidates.ofText value = [] → asked.isReplayable = false ∧ given.isReplayable = false) ∧
      (Candidates.ofText value ≠ [] → asked.matchers = .ok [.text field (Candidates.ofText value)] ∧
        given.matchers = .ok [.text field (Candidates.ofText value)]) := by
  intro asked given
  have query : asked.matchers.toOption = (Query.textMatcher? field value).map fun t => [t] := by
    rw [matchers_toRule, asks, Criteria.toOption_matchers_ofQuery keyword whole]
  have criterion : given.matchers.toOption = (Query.textMatcher? field value).map fun t => [t] := by
    rw [matchers_toRule, gives, Criteria.toOption_matchers_ofField]
  constructor
  · intro nothing
    rw [Query.textMatcher?, if_pos nothing] at query criterion
    rw [Rule.isReplayable_eq, Rule.isReplayable_eq, query, criterion]
    exact ⟨rfl, rfl⟩
  · intro filled
    rw [Query.textMatcher?, if_neg filled] at query criterion
    exact ⟨toOption_eq_some_iff.1 query, toOption_eq_some_iff.1 criterion⟩

/-- Wrappers, separators, colons and `OR` on both sides of the part that is left. -/
theorem term_asks_as_criterion_motley :
    let value := "(OR);\"Ann:B\x27|or,)"
    let f : Filter := ⟨"", "", Criteria.ofQuery ("sUBJect" ++ ":" ++ value), .empty⟩
    let g : Filter := ⟨"", "", Criteria.ofField .subject value, .empty⟩
    (SameText "sUBJect" Field.subject.keyword ∧ (∀ c ∈ value.toList, isBlank c = false) ∧
        f.criteria.query = "sUBJect:(OR);\"Ann:B\x27|or,)" ∧ g.criteria.subject = value) ∧
      Candidates.ofText value = ["ann:b"] ∧ (f.toRule []).matchers = .ok [.text .subject ["ann:b"]] ∧
        (g.toRule []).matchers = .ok [.text .subject ["ann:b"]] := by
  intro value f g
  have keyword : SameText "sUBJect" Field.subject.keyword := by decide
  have visible : value.toList.all (fun c => !isBlank c) = true := by decide +kernel
  have whole (c : Char) (mem : c ∈ value.toList) : isBlank c = false := by
    simpa using List.all_eq_true.1 visible c mem
  have candidates : Candidates.ofText value = ["ann:b"] := by decide +kernel
  obtain ⟨-, same⟩ := term_asks_as_criterion keyword whole (f := f) (g := g) rfl rfl [] []
  obtain ⟨asked, given⟩ := same (by rw [candidates]; exact List.cons_ne_nil _ _)
  rw [candidates] at asked given
  exact ⟨⟨keyword, whole, rfl, rfl⟩, candidates, asked, given⟩

end InboxAudit.Filter
