import InboxAudit.Proofs.Analysis.Replay
import InboxAudit.Proofs.Filter.Query
import InboxAudit.Proofs.Text.LetterCase
import Mathlib.Data.List.Perm.Basic

/-!
# The language of queries

A word of the language is a keyword in any case, a colon and a value with something to look for (`Query.Asks`).
It is read exactly if it is one (`Query.readWord_eq_ok_iff_asks`), and what is reported of a query is its first word
that is not (`Query.parse_eq_error_iff`). Every word is read without regard to the others, so their order makes a
difference to the order of the tests alone (`Query.exists_parse_of_perm`) and not to what they accept
(`query_grammar`).
-/

namespace InboxAudit.Filter
set_option autoImplicit false

open InboxAudit.Text

theorem Field.ofKeyword?_eq_some_iff {word : String} {field : Field} :
    Field.ofKeyword? word = some field ↔ word = field.keyword := by
  constructor
  · intro found
    have matched := List.find?_some found
    exact (of_decide_eq_true matched).symm
  · rintro rfl
    cases field <;> decide

namespace Query

/-- A word of the language and the test that it asks for. -/
inductive Asks : List Char → Matcher → Prop where
  | text {key value : List Char} (field : Field) (keyword : sameAsciiCase key field.keyword.toList = true)
      (filled : Candidates.ofText (String.ofList value) ≠ []) :
      Asks (key ++ ':' :: value) (.text field (Candidates.ofText (String.ofList value)))
  | list {key value : List Char} (keyword : sameAsciiCase key "list".toList = true)
      (filled : Mail.listId (String.ofList value) ≠ "") :
      Asks (key ++ ':' :: value) (.list (Mail.listId (String.ofList value)))

section Words

variable {word key value : List Char} {t : Matcher}

/-- A keyword is compared in small letters. -/
theorem ofList_toLower_eq_iff {keyword : String} (small : foldCase keyword.toList = keyword.toList) :
    String.ofList (key.map Char.toLower) = keyword ↔ sameAsciiCase key keyword.toList = true := by
  rw [sameAsciiCase_iff, small, ← String.toList_inj, String.toList_ofList, foldCase]

theorem ofList_toLower_eq_keyword_iff {field : Field} :
    String.ofList (key.map Char.toLower) = field.keyword ↔ sameAsciiCase key field.keyword.toList = true :=
  ofList_toLower_eq_iff (by cases field <;> rfl)

theorem ofList_toLower_eq_list_iff :
    String.ofList (key.map Char.toLower) = "list" ↔ sameAsciiCase key "list".toList = true :=
  ofList_toLower_eq_iff rfl

/-- A keyword ends at the first colon of its word. -/
theorem splitFirst?_keyword (free : ':' ∉ key) :
    splitFirst? (· = ':') (key ++ ':' :: value) = some (key, value) := by
  refine splitFirst?_eq_some_iff.2 ⟨':', rfl, rfl, fun d mem => decide_eq_false ?_⟩
  rintro rfl
  exact free mem

theorem wordMatcher?_eq_some_iff_asks : wordMatcher? word = some t ↔ Asks word t := by
  rw [wordMatcher?_eq_some_iff]
  constructor
  · rintro ⟨key, value, split, read⟩
    obtain ⟨c, rfl, colon, -⟩ := splitFirst?_eq_some_iff.1 split
    obtain rfl : c = ':' := of_decide_eq_true colon
    rcases read with ⟨keyword, read⟩ | ⟨-, field, keyword, read⟩
    · obtain ⟨filled, rfl⟩ := listMatcher?_eq_some_iff.1 read
      exact .list (ofList_toLower_eq_list_iff.1 keyword) filled
    · obtain ⟨filled, rfl⟩ := textMatcher?_eq_some_iff.1 read
      exact .text field (ofList_toLower_eq_keyword_iff.1 (Field.ofKeyword?_eq_some_iff.1 keyword)) filled
  · intro asks
    cases asks with
    | @text key value field keyword filled =>
      have free : ':' ∉ key := not_mem_of_sameAsciiCase keyword (by cases field <;> decide)
      have written := ofList_toLower_eq_keyword_iff.2 keyword
      have noList : field.keyword ≠ "list" := by cases field <;> decide
      exact ⟨key, value, splitFirst?_keyword free, .inr ⟨written ▸ noList, field,
        Field.ofKeyword?_eq_some_iff.2 written, textMatcher?_eq_some_iff.2 ⟨filled, rfl⟩⟩⟩
    | @list key value keyword filled =>
      have free : ':' ∉ key := not_mem_of_sameAsciiCase keyword (by decide)
      exact ⟨key, value, splitFirst?_keyword free, .inl ⟨ofList_toLower_eq_list_iff.2 keyword,
        listMatcher?_eq_some_iff.2 ⟨filled, rfl⟩⟩⟩

theorem head?_keyword_ne (free : '-' ∉ key) : (key ++ ':' :: value).head? ≠ some '-' := by
  cases key with
  | nil => simp
  | cons first rest =>
    rintro ⟨⟩
    exact free List.mem_cons_self

/-- No word of the language begins with a minus sign. -/
theorem Asks.head?_ne (asks : Asks word t) : word.head? ≠ some '-' := by
  cases asks with
  | text field keyword => exact head?_keyword_ne (not_mem_of_sameAsciiCase keyword (by cases field <;> decide))
  | list keyword => exact head?_keyword_ne (not_mem_of_sameAsciiCase keyword (by decide))

theorem readWord_eq_ok_iff_asks : readWord word = .ok t ↔ Asks word t := by
  rw [readWord_eq_ok_iff, wordMatcher?_eq_some_iff_asks]
  exact and_iff_right_of_imp Asks.head?_ne

theorem readWord_eq_error_iff {reason : NotReplayable} :
    readWord word = .error reason ↔ word.head? = some '-' ∧ reason = .negated (String.ofList word) ∨
      word.head? ≠ some '-' ∧ (¬∃ t, Asks word t) ∧ reason = .unsupported (String.ofList word) := by
  simp only [← wordMatcher?_eq_some_iff_asks]
  unfold readWord
  split
  · next negated => simp [negated, eq_comm]
  · next plain =>
    cases wordMatcher? word with
    | none => simp [plain, eq_comm]
    | some t => simp [plain]

end Words

section Queries

variable {query other : String}

/-- A query is refused if it has no words, or else for its first word that is not read. -/
theorem parse_eq_error_iff {reason : NotReplayable} :
    parse query = .error reason ↔
      queryWords query.toList = [] ∧ reason = .unsupported (stripText query) ∨
      ∃ before bad after, queryWords query.toList = before ++ bad :: after ∧
        (∀ word ∈ before, ∃ t, Asks word t) ∧ readWord bad = .error reason := by
  unfold parse
  split
  · next empty => simp [empty, stripText, eq_comm]
  · next filled =>
    rw [mapM_eq_error_iff, or_iff_right fun nothing => filled nothing.1]
    simp only [readWord_eq_ok_iff_asks]

/-- A query with the same words in another order asks for the same tests in another order. -/
theorem exists_parse_of_perm (same : (words query.toList).Perm (words other.toList)) {found : List Matcher}
    (read : parse query = .ok found) : ∃ found', parse other = .ok found' ∧ found.Perm found' := by
  obtain ⟨filled, each⟩ := parse_eq_ok_iff.1 read
  have order : (queryWords other.toList).Perm (queryWords query.toList) := (same.symm.map _).filter _
  obtain ⟨found', each', same⟩ := List.perm_comp_forall₂ order each
  exact ⟨found', parse_eq_ok_iff.2 ⟨fun nothing => filled (List.perm_nil.1 (nothing ▸ order.symm)), each'⟩, same.symm⟩

end Queries

end Query

section Order

variable {query other : String} (same : (words query.toList).Perm (words other.toList))
include same

theorem stripText_eq_empty_of_perm (blank : stripText query = "") : stripText other = "" := by
  rw [stripText, String.ofList_eq_empty_iff, ← words_eq_nil_iff] at blank ⊢
  rw [blank] at same
  exact List.perm_nil.1 same.symm

theorem Criteria.exists_queryMatchers_of_perm (c : Criteria) {found : List Matcher}
    (read : { c with query := query }.queryMatchers = .ok found) :
    ∃ found', { c with query := other }.queryMatchers = .ok found' ∧ found.Perm found' := by
  unfold queryMatchers at read ⊢
  split at read
  · next blank =>
    cases read
    exact ⟨[], if_pos (stripText_eq_empty_of_perm same blank), .nil⟩
  · next visible =>
    rw [if_neg fun blank => visible (stripText_eq_empty_of_perm same.symm blank)]
    exact Query.exists_parse_of_perm same read

theorem Criteria.exists_matchers_of_perm (c : Criteria) {ts : List Matcher}
    (read : { c with query := query }.matchers = .ok ts) :
    ∃ ts', { c with query := other }.matchers = .ok ts' ∧ ts.Perm ts' := by
  obtain ⟨filled, found, asked, rfl⟩ := matchers_eq_ok_iff.1 read
  obtain ⟨found', asked', reordered⟩ := exists_queryMatchers_of_perm same c asked
  have order := reordered.append_left { c with query := other }.headerMatchers
  refine ⟨_, matchers_eq_ok_iff.2 ⟨fun nothing => filled ?_, found', asked', rfl⟩, order⟩
  rw [nothing] at order
  exact List.perm_nil.1 order

end Order

/-- Rules whose tests are the same but for their order, if they have any, accept the same messages. -/
theorem Rule.catches_of_perm {r r' : Rule}
    (there : ∀ ts, r.matchers = .ok ts → ∃ ts', r'.matchers = .ok ts' ∧ ts.Perm ts')
    (back : ∀ ts, r'.matchers = .ok ts → ∃ ts', r.matchers = .ok ts' ∧ ts.Perm ts') :
    r.isReplayable = r'.isReplayable ∧ ∀ m, r.catches m = r'.catches m := by
  cases read : r.matchers with
  | ok ts =>
    obtain ⟨ts', read', order⟩ := there ts read
    rw [isReplayable_of_ok read, isReplayable_of_ok read', catches_of_ok read, catches_of_ok read']
    exact ⟨rfl, fun m => order.all_eq⟩
  | error reason =>
    cases read' : r'.matchers with
    | ok ts =>
      obtain ⟨ts', found, -⟩ := back ts read'
      rw [found] at read
      cases read
    | error reason' =>
      rw [isReplayable_of_error read, isReplayable_of_error read']
      exact ⟨rfl, fun m => by rw [catches, read, catches, read']⟩

/-- Let `ts` be the words of a query without wrappers at their ends, those that are empty or `OR` left out. The query
is read exactly if there are such words and each of them is in the language, and it then has their tests in their
order. If there are none, the query is reported as a whole, and else the first of them that is negated or not in the
language. A query with the same words in another order makes a rule that can be replayed or not as this one can, and
that catches the same messages, whatever the other criteria are. -/
theorem query_grammar (query : String) :
    let ts := ((words query.toList).map (trim Candidates.isWrapper)).filter
      fun word => word ≠ [] && !sameAsciiCase word ['o', 'r']
    (∀ found, Query.parse query = .ok found ↔
      ts ≠ [] ∧ (∀ word ∈ ts, word.head? ≠ some '-') ∧ List.Forall₂ Query.Asks ts found) ∧
    (∀ reason, Query.parse query = .error reason ↔
      ts = [] ∧ reason = .unsupported (stripText query) ∨
      ∃ before bad after, ts = before ++ bad :: after ∧
        (∀ word ∈ before, word.head? ≠ some '-' ∧ ∃ t, Query.Asks word t) ∧
        (bad.head? = some '-' ∧ reason = .negated (String.ofList bad) ∨
          bad.head? ≠ some '-' ∧ (¬∃ t, Query.Asks bad t) ∧ reason = .unsupported (String.ofList bad))) ∧
    ∀ other : String, (words other.toList).Perm (words query.toList) → ∀ (f : Filter) (names : Table String),
      let rule (query : String) := { f with criteria := { f.criteria with query := query } }.toRule names
      (rule other).isReplayable = (rule query).isReplayable ∧
        ∀ m, (rule other).catches m = (rule query).catches m := by
  intro ts
  have words_eq : Query.queryWords query.toList = ts := rfl
  refine ⟨fun found => ?_, fun reason => ?_, fun other same f names => ?_⟩
  · rw [Query.parse_eq_ok_iff, words_eq]
    simp only [Query.readWord_eq_ok_iff_asks]
    refine and_congr_right fun _ => (and_iff_right_of_imp fun each word mem => ?_).symm
    obtain ⟨t, -, asks⟩ := exists_mem_of_forall₂ each mem
    exact asks.head?_ne
  · rw [Query.parse_eq_error_iff, words_eq]
    simp only [Query.readWord_eq_error_iff]
    have unnegated (word : List Char) :
        (word.head? ≠ some '-' ∧ ∃ t, Query.Asks word t) ↔ ∃ t, Query.Asks word t :=
      and_iff_right_of_imp fun ⟨_, asks⟩ => asks.head?_ne
    simp only [unnegated]
  · refine Rule.catches_of_perm (fun found read => ?_) fun found read => ?_ <;> rw [matchers_toRule] at read ⊢
    · exact Criteria.exists_matchers_of_perm same f.criteria read
    · exact Criteria.exists_matchers_of_perm same.symm f.criteria read

/-- The first bad word counts though another is bad in another way, and in every order of the words there is one. -/
theorem query_grammar_mixed :
    let query := "(From:Ann) or \"-to:bob\" label:x"
    let rule (query : String) := (Filter.mk "" "" (.ofQuery query) .empty).toRule []
    Query.parse query = .error (.negated "-to:bob") ∧
      (rule "label:x (From:Ann) or \"-to:bob\"").isReplayable = (rule query).isReplayable := by
  intro query rule
  obtain ⟨-, refused, order⟩ := query_grammar query
  have ann : Query.Asks "From:Ann".toList (.text .sender ["ann"]) :=
    Query.readWord_eq_ok_iff_asks.1 (by decide +kernel)
  refine ⟨(refused _).2 (.inr ⟨["From:Ann".toList], "-to:bob".toList, ["label:x".toList], ?_, ?_, ?_⟩), ?_⟩
  · decide +kernel
  · exact List.forall_mem_singleton.2 ⟨ann.head?_ne, _, ann⟩
  · exact .inl ⟨rfl, rfl⟩
  · exact (order _ (by decide +kernel) ⟨"", "", .ofQuery "", .empty⟩ []).1

end InboxAudit.Filter
