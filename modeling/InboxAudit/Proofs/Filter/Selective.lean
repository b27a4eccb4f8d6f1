import InboxAudit.Proofs.Analysis.Replay
import InboxAudit.Proofs.Filter.Query

/-!
# Tests that look for something

The empty text occurs in every header, so a test for it would hold for every message. No test that a filter
compiles to is of this kind: each looks for candidates or for a list that are not empty
(`isSelective_of_matchers`), whichever criterion or word of a query it comes from, and fails where its
header is missing. A rule has at least one test, and so it catches no message without the four headers
that are read (`rules_selective`).
-/

namespace InboxAudit.Filter
set_option autoImplicit false

open InboxAudit.Mail (LabelCatalog Message)
open InboxAudit.Text

/-- The header that the test reads. -/
def Matcher.header : Matcher → String
  | .text field _ => field.header
  | .list _ => "List-Id"

/-- The test looks for some text that is not empty: for one of several candidates, or for a list. -/
def Matcher.IsSelective : Matcher → Prop
  | .text _ candidates => candidates ≠ [] ∧ ∀ c ∈ candidates, c ≠ ""
  | .list id => id ≠ ""

/-- The headers that tests read are all absent or empty. -/
def IsBare (m : Message) : Prop :=
  ∀ name ∈ ["From", "To", "Subject", "List-Id"], m.header name = ""

instance (m : Message) : Decidable (IsBare m) :=
  inferInstanceAs (Decidable (∀ name ∈ _, _))

theorem contains_empty {needle : String} (filled : needle ≠ "") : contains "" needle = false := by
  rw [Bool.eq_false_iff]
  intro occurs
  have nothing : needle.toList = [] := List.infix_nil.1 (contains_iff.1 occurs)
  exact filled (String.toList_eq_nil_iff.1 nothing)

/-- A selective test fails where its header is absent or empty. -/
theorem Matcher.IsSelective.holds_eq_false {t : Matcher} (selective : t.IsSelective) {m : Message}
    (absent : m.header t.header = "") : t.holds m = false := by
  cases t with
  | text field candidates =>
    obtain ⟨-, filled⟩ := selective
    rw [header] at absent
    rw [holds, absent, List.any_eq_false]
    intro c mem
    rw [Bool.not_eq_true]
    exact contains_empty (filled c mem)
  | list id =>
    have noList : Mail.listId "" = "" := by decide
    rw [header] at absent
    rw [holds, absent, noList]
    exact contains_empty selective

theorem Matcher.header_of_isBare (t : Matcher) {m : Message} (bare : IsBare m) :
    m.header t.header = "" := by
  apply bare
  cases t with
  | text field candidates => cases field <;> simp [header, Field.header]
  | list id => simp [header]

theorem Candidates.ne_empty_of_mem_ofText {raw c : String} (mem : c ∈ ofText raw) : c ≠ "" := by
  obtain ⟨part, listed, rfl⟩ := List.mem_map.1 mem
  obtain ⟨-, filled, -⟩ := mem_split_iff.1 listed
  rwa [Ne, String.ofList_eq_empty_iff]

namespace Query

theorem isSelective_of_textMatcher? {field : Field} {raw : String} {t : Matcher}
    (made : textMatcher? field raw = some t) : t.IsSelective := by
  obtain ⟨filled, rfl⟩ := textMatcher?_eq_some_iff.1 made
  exact ⟨filled, fun c mem => Candidates.ne_empty_of_mem_ofText mem⟩

theorem isSelective_of_listMatcher? {raw : String} {t : Matcher} (made : listMatcher? raw = some t) :
    t.IsSelective := by
  obtain ⟨filled, rfl⟩ := listMatcher?_eq_some_iff.1 made
  exact filled

theorem isSelective_of_wordMatcher? {word : List Char} {t : Matcher}
    (made : wordMatcher? word = some t) : t.IsSelective := by
  obtain ⟨key, value, -, ⟨-, made⟩ | ⟨-, field, -, made⟩⟩ := wordMatcher?_eq_some_iff.1 made
  · exact isSelective_of_listMatcher? made
  · exact isSelective_of_textMatcher? made

theorem isSelective_of_readWord {words : List (List Char)} {ts : List Matcher}
    (read : List.Forall₂ (fun word t => readWord word = .ok t) words ts) : ∀ t ∈ ts, t.IsSelective := by
  intro t mem
  obtain ⟨word, -, read⟩ := exists_mem_of_forall₂ read.flip mem
  exact isSelective_of_wordMatcher? (readWord_eq_ok_iff.1 read).2

theorem isSelective_of_parse {query : String} {ts : List Matcher} (read : parse query = .ok ts) :
    ∀ t ∈ ts, t.IsSelective :=
  isSelective_of_readWord (parse_eq_ok_iff.1 read).2

end Query

namespace Criteria

variable {c : Criteria}

theorem isSelective_of_headerMatchers : ∀ t ∈ c.headerMatchers, t.IsSelective := by
  intro t mem
  obtain ⟨made?, listed, made⟩ := List.mem_filterMap.1 mem
  simp only [List.mem_cons, List.not_mem_nil, or_false] at listed
  rcases listed with eq | eq | eq | eq <;> rw [eq] at made
  · exact Query.isSelective_of_textMatcher? made
  · exact Query.isSelective_of_textMatcher? made
  · exact Query.isSelective_of_textMatcher? made
  · exact Query.isSelective_of_listMatcher? made

theorem isSelective_of_queryMatchers {ts : List Matcher} (read : c.queryMatchers = .ok ts) :
    ∀ t ∈ ts, t.IsSelective := by
  unfold queryMatchers at read
  split at read
  · cases read
    exact fun t mem => absurd mem List.not_mem_nil
  · exact Query.isSelective_of_parse read

/-- Criteria that can be replayed have tests, and each of them looks for something. -/
theorem isSelective_of_matchers {ts : List Matcher} (replayable : c.matchers = .ok ts) :
    ts ≠ [] ∧ ∀ t ∈ ts, t.IsSelective := by
  obtain ⟨filled, found, read, rfl⟩ := matchers_eq_ok_iff.1 replayable
  refine ⟨filled, fun t mem => ?_⟩
  rcases List.mem_append.1 mem with mem | mem
  · exact isSelective_of_headerMatchers t mem
  · exact isSelective_of_queryMatchers read t mem

end Criteria

/-- A rule that can be replayed has at least one test, each of its tests looks for something and fails
where its header is absent or empty, and so the rule catches no message without any of the headers. -/
theorem rules_selective (e : Export) (catalog : LabelCatalog) {rule : Rule}
    (compiled : rule ∈ e.rules catalog) {ts : List Matcher} (replayable : rule.matchers = .ok ts) :
    ts ≠ [] ∧ (∀ t ∈ ts, t.IsSelective) ∧
      (∀ t ∈ ts, ∀ m : Message, m.header t.header = "" → t.holds m = false) ∧
      ∀ m : Message, IsBare m → rule.catches m = false := by
  obtain ⟨f, -, rfl⟩ := List.mem_map.1 compiled
  have criteria : f.criteria.matchers = .ok ts := by rw [← matchers_toRule, replayable]
  obtain ⟨filled, selective⟩ := Criteria.isSelective_of_matchers criteria
  have fails : ∀ t ∈ ts, ∀ m : Message, m.header t.header = "" → t.holds m = false :=
    fun t mem m absent => (selective t mem).holds_eq_false absent
  refine ⟨filled, selective, fails, fun m bare => ?_⟩
  -- One test is enough: an empty list of tests would hold.
  obtain ⟨t, mem⟩ := List.exists_mem_of_ne_nil ts filled
  rw [Rule.catches_of_ok replayable, holdsAll, List.all_eq_false]
  exact ⟨t, mem, by simp [fails t mem m (t.header_of_isBare bare)]⟩

/-- Criteria of which two are nothing but decoration, with a query on a list and a subject. -/
def decoratedCriteria : Criteria :=
  ⟨"(OR) \"Ann\"", "", "\x27\x27", "List:<News> or (subject:É,,)", "<>"⟩

/-- The headers are missing, or empty under a name in another case. -/
theorem rules_selective_decorated :
    let f : Filter := ⟨"", "", decoratedCriteria, .empty⟩
    let rule := f.toRule []
    let ts : List Matcher := [.text .sender ["ann"], .list "news", .text .subject ["é"]]
    let m : Message := ⟨"m1", [], [("from", ""), ("X-Mailer", "ann news é")]⟩
    (rule ∈ (⟨[f], []⟩ : Export).rules .empty ∧ rule.matchers = .ok ts ∧ IsBare m) ∧
      ts ≠ [] ∧ (∀ t ∈ ts, t.IsSelective) ∧ rule.catches m = false := by
  intro f rule ts m
  have compiled : rule ∈ (⟨[f], []⟩ : Export).rules .empty := List.mem_singleton_self _
  have replayable : rule.matchers = .ok ts := by decide +kernel
  have bare : IsBare m := by decide
  obtain ⟨filled, selective, -, catches⟩ := rules_selective ⟨[f], []⟩ .empty compiled replayable
  exact ⟨⟨compiled, replayable, bare⟩, filled, selective, catches m bare⟩

end InboxAudit.Filter
