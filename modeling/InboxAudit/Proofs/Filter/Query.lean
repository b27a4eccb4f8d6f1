import InboxAudit.Proofs.Collections.Outcomes
import InboxAudit.Proofs.Filter.Criteria

/-!
# Queries word by word

A query is read exactly if it has words and each of them is read, and it then has one matcher for each
(`parse_eq_ok_iff`). The words on the two sides of white space are found separately, and between terms
joined by `OR` there are no words but theirs (`queryWords_intercalate_or`). A word on a text header has the
matcher that a criterion on that header has with the same value, though the query strips the word as a
whole and the criterion each of its parts (`readWord_fieldWord`).
-/

namespace InboxAudit.Filter
set_option autoImplicit false

open InboxAudit.Text

namespace Query

section Reading

theorem textMatcher?_eq_some_iff {field : Field} {raw : String} {t : Matcher} :
    textMatcher? field raw = some t ↔
      Candidates.ofText raw ≠ [] ∧ t = .text field (Candidates.ofText raw) := by
  simp only [textMatcher?]
  split
  · next empty => simp [empty]
  · next filled => simp [filled, eq_comm]

theorem listMatcher?_eq_some_iff {raw : String} {t : Matcher} :
    listMatcher? raw = some t ↔ Mail.listId raw ≠ "" ∧ t = .list (Mail.listId raw) := by
  simp only [listMatcher?]
  split
  · next empty => simp [empty]
  · next filled => simp [filled, eq_comm]

/-- A word has a matcher if it has a keyword of the language and a value that there is something to look
for in. -/
theorem wordMatcher?_eq_some_iff {word : List Char} {t : Matcher} :
    wordMatcher? word = some t ↔ ∃ key value, splitFirst? (· = ':') word = some (key, value) ∧
      (String.ofList (key.map Char.toLower) = "list" ∧ listMatcher? (String.ofList value) = some t ∨
        String.ofList (key.map Char.toLower) ≠ "list" ∧
          ∃ field, Field.ofKeyword? (String.ofList (key.map Char.toLower)) = some field ∧
            textMatcher? field (String.ofList value) = some t) := by
  simp only [wordMatcher?, Option.bind_eq_bind, Option.bind_eq_some_iff, Prod.exists]
  refine exists_congr fun key => exists_congr fun value => and_congr_right fun _ => ?_
  split
  · next list => simp [list]
  · next other => simp [other, Option.bind_eq_some_iff]

theorem readWord_eq_ok_iff {word : List Char} {t : Matcher} :
    readWord word = .ok t ↔ word.head? ≠ some '-' ∧ wordMatcher? word = some t := by
  unfold readWord
  split
  · next negated => simp [negated]
  · next plain =>
    cases wordMatcher? word with
    | none => simp
    | some m => simp [plain]

/-- A query is read if it has words and each of them is read. -/
theorem parse_eq_ok_iff {query : String} {ts : List Matcher} :
    parse query = .ok ts ↔ queryWords query.toList ≠ [] ∧
      List.Forall₂ (fun word t => readWord word = .ok t) (queryWords query.toList) ts := by
  unfold parse
  split
  · next empty => simp [empty]
  · next filled => rw [← mapM_eq_ok_iff, and_iff_right filled]

theorem ne_nil_of_parse {query : String} {ts : List Matcher} (read : parse query = .ok ts) : ts ≠ [] := by
  obtain ⟨filled, words⟩ := parse_eq_ok_iff.1 read
  rintro rfl
  exact filled (List.forall₂_nil_right_iff.1 words)

end Reading

section Words

theorem queryWords_append_cons {c : Char} (blank : isBlank c = true) (before after : List Char) :
    queryWords (before ++ c :: after) = queryWords before ++ queryWords after := by
  rw [queryWords, words_append_cons blank, List.map_append, List.filter_append, queryWords, queryWords]

theorem queryWords_of_strip_eq_nil {query : List Char} (blank : strip query = []) :
    queryWords query = [] := by
  rw [queryWords, words_eq_nil_iff.2 blank, List.map_nil, List.filter_nil]

/-- The word `OR` between terms leaves no trace. -/
theorem queryWords_intercalate_or (terms : List (List Char)) :
    queryWords (" OR ".toList.intercalate terms) = terms.flatMap queryWords := by
  have nothing : queryWords ['O', 'R'] = [] := by decide
  have blank : isBlank ' ' = true := by decide
  induction terms with
  | nil => decide
  | cons term rest ih =>
    cases rest with
    | nil => simp
    | cons next more =>
      have joined : " OR ".toList.intercalate (term :: next :: more) =
          term ++ ' ' :: (['O', 'R'] ++ ' ' :: " OR ".toList.intercalate (next :: more)) := by
        simp [List.intercalate_cons_cons]
      rw [joined, queryWords_append_cons blank, queryWords_append_cons blank, nothing, List.nil_append, ih]
      rfl

end Words

/-- A word that asks a text header for a value. -/
def fieldWord (field : Field) (value : List Char) : List Char :=
  field.keyword.toList ++ ':' :: value

/-- A query for a value of a text header. -/
def term (field : Field) (value : String) : String := field.keyword ++ ":" ++ value

theorem toList_term (field : Field) (value : String) :
    (term field value).toList = fieldWord field value.toList := by
  simp [term, fieldWord]

section FieldWord

variable (field : Field) {value : List Char}

/-- A keyword has neither wrappers nor white space. -/
theorem keyword_plain {c : Char} (mem : c ∈ field.keyword.toList) :
    Candidates.isWrapper c = false ∧ isBlank c = false := by
  have plain : (field.keyword.toList.all fun c => !Candidates.isWrapper c && !isBlank c) = true := by
    cases field <;> decide
  simpa using List.all_eq_true.1 plain c mem

theorem trim_fieldWord (value : List Char) :
    trim Candidates.isWrapper (fieldWord field value) =
      fieldWord field (trimEnd Candidates.isWrapper value) := by
  have plain : ∀ c ∈ field.keyword.toList, Candidates.isWrapper c = false :=
    fun c mem => (keyword_plain field mem).1
  have starts : trimStart Candidates.isWrapper (fieldWord field value) = fieldWord field value := by
    cases field <;> exact trimStart_cons_of_neg (by decide) _
  rw [trim, starts, fieldWord, trimEnd_append_of_none plain, trimEnd_cons_of_neg (by decide), fieldWord]

theorem isOr_fieldWord (value : List Char) : Candidates.isOr (fieldWord field value) = false := by
  cases field <;> simp [fieldWord, Field.keyword, Candidates.isOr, sameAsciiCase]

theorem queryWords_fieldWord (whole : ∀ c ∈ value, isBlank c = false) :
    queryWords (fieldWord field value) = [fieldWord field (trimEnd Candidates.isWrapper value)] := by
  have none : ∀ c ∈ fieldWord field value, isBlank c = false := by
    intro c mem
    rcases List.mem_append.1 mem with mem | mem
    · exact (keyword_plain field mem).2
    · rcases List.mem_cons.1 mem with rfl | mem
      · decide
      · exact whole c mem
  have filled (value : List Char) : fieldWord field value ≠ [] :=
    List.append_ne_nil_of_right_ne_nil _ (List.cons_ne_nil _ _)
  rw [queryWords, words_of_none none (filled value), List.map_singleton, trim_fieldWord]
  simp [filled, isOr_fieldWord]

theorem wordMatcher?_fieldWord (value : List Char) :
    wordMatcher? (fieldWord field value) = textMatcher? field (String.ofList value) := by
  cases field <;> rfl

/-- Wrappers at the end of a value make no difference to its test. -/
theorem textMatcher?_trimEnd (value : String) :
    textMatcher? field (String.ofList (trimEnd Candidates.isWrapper value.toList)) = textMatcher? field value := by
  have same : Candidates.ofText (String.ofList (trimEnd Candidates.isWrapper value.toList)) =
      Candidates.ofText value := by
    rw [Candidates.ofText, String.toList_ofList, Candidates.split_trimEnd, Candidates.ofText]
  rw [textMatcher?, same, textMatcher?]

theorem head?_fieldWord_ne (value : List Char) : (fieldWord field value).head? ≠ some '-' := by
  cases field <;> simp [fieldWord, Field.keyword]

/-- A word on a text header is read as a criterion on that header is, wrappers at its end or not. -/
theorem readWord_fieldWord {value : String} (filled : Candidates.ofText value ≠ []) :
    readWord (fieldWord field (trimEnd Candidates.isWrapper value.toList)) =
      .ok (.text field (Candidates.ofText value)) := by
  rw [readWord_eq_ok_iff, wordMatcher?_fieldWord, textMatcher?_trimEnd, textMatcher?_eq_some_iff]
  exact ⟨head?_fieldWord_ne field _, filled, rfl⟩

end FieldWord

end Query

/-- Criteria that consist of a query. -/
def Criteria.ofQuery (query : String) : Criteria := { Criteria.empty with query := query }

/-- What a query is read as decides, if it is not blank. -/
theorem Criteria.matchers_of_visible {query : String} (visible : stripText query ≠ "") :
    (Criteria.ofQuery query).matchers = Query.parse query := by
  have nothing : Candidates.ofText "" = [] := by decide
  have noList : Mail.listId "" = "" := by decide
  have header : (Criteria.ofQuery query).headerMatchers = [] := by
    simp [headerMatchers, ofQuery, empty, Query.textMatcher?, Query.listMatcher?, nothing, noList]
  have asked : (Criteria.ofQuery query).queryMatchers = Query.parse query := by
    rw [queryMatchers, ofQuery, if_neg visible]
  rw [matchers, asked, header]
  cases read : Query.parse query with
  | error reason => rfl
  | ok ts =>
    cases ts with
    | nil => exact absurd rfl (Query.ne_nil_of_parse read)
    | cons first rest => rfl

theorem Criteria.matchers_ofQuery {query : String} {ts : List Matcher} (read : Query.parse query = .ok ts) :
    (Criteria.ofQuery query).matchers = .ok ts := by
  have visible : stripText query ≠ "" := by
    intro blank
    rw [stripText, String.ofList_eq_empty_iff] at blank
    exact (Query.parse_eq_ok_iff.1 read).1 (Query.queryWords_of_strip_eq_nil blank)
  rw [matchers_of_visible visible, read]

end InboxAudit.Filter
