import InboxAudit.Proofs.Analysis.Adoption
import InboxAudit.Proofs.Filter.Query

/-!
# Alternatives in a query

Terms of a query that are joined by `OR` are read one by one, and the word between them is passed over
(`parse_anyOf`). The tests of a rule must all hold, so a query for one of several values of a header asks for
all of them: it catches what the queries for the single values all catch (`alternatives_all_required`), and
misses a message that meets one alternative alone (`alternatives_one_missed`). A criterion differs here: its
candidates are alternatives.
-/

namespace InboxAudit.Filter.Query
set_option autoImplicit false

open InboxAudit.Text

/-- A query for one of several values of a text header. -/
def anyOf (field : Field) (values : List String) : String := " OR ".intercalate (values.map (term field))

/-- The value is free of white space and holds a candidate. -/
def IsValue (value : String) : Prop :=
  (∀ c ∈ value.toList, isBlank c = false) ∧ Candidates.ofText value ≠ []

instance (value : String) : Decidable (IsValue value) :=
  haveI : Decidable (∀ c ∈ value.toList, isBlank c = false) := List.decidableBAll _ _
  inferInstanceAs (Decidable (_ ∧ _))

section AnyOf

variable {field : Field} {values : List String} (usable : ∀ v ∈ values, IsValue v)
include usable

theorem queryWords_anyOf : queryWords (anyOf field values).toList =
    values.map fun v => fieldWord field (trimEnd Candidates.isWrapper v.toList) := by
  rw [anyOf, String.toList_intercalate, queryWords_intercalate_or, List.map_map]
  induction values with
  | nil => rfl
  | cons v rest ih =>
    obtain ⟨⟨whole, -⟩, others⟩ := List.forall_mem_cons.1 usable
    rw [List.map_cons, List.flatMap_cons, ih others, Function.comp_apply, toList_term,
      queryWords_fieldWord field whole]
    rfl

/-- Each of the values becomes a test of its own. -/
theorem parse_anyOf (given : values ≠ []) :
    parse (anyOf field values) = .ok (values.map fun v => .text field (Candidates.ofText v)) := by
  rw [parse_eq_ok_iff, queryWords_anyOf usable, List.forall₂_map_left_iff, List.forall₂_map_right_iff,
    List.forall₂_same]
  refine ⟨by simpa using given, fun v mem => ?_⟩
  exact readWord_fieldWord field (usable v mem).2

end AnyOf

theorem parse_term {field : Field} {value : String} (usable : IsValue value) :
    parse (term field value) = .ok [.text field (Candidates.ofText value)] := by
  have single : term field value = anyOf field [value] := rfl
  rw [single, parse_anyOf (by simpa using usable) (List.cons_ne_nil _ _), List.map_singleton]

end InboxAudit.Filter.Query

namespace InboxAudit.Analysis

open InboxAudit.Filter (Criteria Field Rule holdsAll matchers_toRule)
open InboxAudit.Filter.Candidates (ofText)
open InboxAudit.Filter.Query (IsValue anyOf parse_anyOf parse_term term)
open InboxAudit.Mail (Message)

section Compiled

variable {field : Field} {f : Filter} {names : Table String}

theorem matchers_of_anyOf {values : List String} (usable : ∀ v ∈ values, IsValue v) (given : values ≠ [])
    (criteria : f.criteria = Criteria.ofQuery (anyOf field values)) :
    (f.toRule names).matchers = .ok (values.map fun v => .text field (ofText v)) := by
  rw [matchers_toRule, criteria, Criteria.matchers_ofQuery (parse_anyOf usable given)]

theorem matchers_of_term {value : String} (usable : IsValue value)
    (criteria : f.criteria = Criteria.ofQuery (term field value)) :
    (f.toRule names).matchers = .ok [.text field (ofText value)] := by
  rw [matchers_toRule, criteria, Criteria.matchers_ofQuery (parse_term usable)]

/-- The tests of the rule for all values are those of the rules for one value each. -/
theorem catches_iff_of_anyOf {values : List String} {rule : Rule} {alone : String → Rule}
    (whole : rule.matchers = .ok (values.map fun v => .text field (ofText v)))
    (part : ∀ v ∈ values, (alone v).matchers = .ok [.text field (ofText v)]) (m : Message) :
    rule.catches m = true ↔ ∀ v ∈ values, (alone v).catches m = true := by
  rw [Rule.catches_of_ok whole, holdsAll, List.all_map, List.all_eq_true]
  refine forall_congr' fun v => imp_congr_right fun mem => ?_
  rw [Rule.catches_of_ok (part v mem), holdsAll, List.all_cons, List.all_nil, Bool.and_true]
  rfl

end Compiled

/-- What holds for one of some values holds for all of them exactly if they agree. -/
theorem forall_iff_exists_iff_agree {values : List String} (given : values ≠ []) (caught : String → Bool) :
    ((∀ v ∈ values, caught v = true) ↔ ∃ v ∈ values, caught v = true) ↔
      ∀ v ∈ values, ∀ w ∈ values, caught v = caught w := by
  constructor
  · intro same v memV w memW
    rw [Bool.eq_iff_iff]
    exact ⟨fun yes => same.2 ⟨v, memV, yes⟩ w memW, fun yes => same.2 ⟨w, memW, yes⟩ v memV⟩
  · intro agree
    obtain ⟨v, mem⟩ := List.exists_mem_of_ne_nil values given
    exact ⟨fun yes => ⟨v, mem, yes v mem⟩, fun ⟨w, memW, yes⟩ v memV => (agree v memV w memW).trans yes⟩

/-- A filter that asks in a query for one of several values of a header can be replayed, and it catches a
message exactly if the filters for the single values all do. It catches what at least one of them catches
exactly where they agree on the message. On its own it is reported dead exactly if no message of the sample
is caught by all of them. -/
theorem alternatives_all_required {field : Field} {values : List String} (given : values ≠ [])
    (usable : ∀ v ∈ values, IsValue v) {f : Filter}
    (criteria : f.criteria = Criteria.ofQuery (anyOf field values)) {single : String → Filter}
    (singles : ∀ v ∈ values, (single v).criteria = Criteria.ofQuery (term field v))
    (names : Table String) :
    let rule := f.toRule names
    let alone (v : String) := (single v).toRule names
    (rule.isReplayable = true ∧ ∀ v ∈ values, (alone v).isReplayable = true) ∧
      (∀ m, rule.catches m = true ↔ ∀ v ∈ values, (alone v).catches m = true) ∧
      (∀ m, (rule.catches m = true ↔ ∃ v ∈ values, (alone v).catches m = true) ↔
        ∀ v ∈ values, ∀ w ∈ values, (alone v).catches m = (alone w).catches m) ∧
      ∀ sample, deadRules [rule] (replay [rule] sample) =
        if sample.any fun m => values.all fun v => (alone v).catches m then [] else reported [rule] := by
  intro rule alone
  have whole : rule.matchers = .ok (values.map fun v => .text field (ofText v)) :=
    matchers_of_anyOf usable given criteria
  have part : ∀ v ∈ values, (alone v).matchers = .ok [.text field (ofText v)] :=
    fun v mem => matchers_of_term (usable v mem) (singles v mem)
  have replayable : rule.isReplayable = true := Rule.isReplayable_of_ok whole
  have all := catches_iff_of_anyOf whole part
  refine ⟨⟨replayable, fun v mem => Rule.isReplayable_of_ok (part v mem)⟩, all, fun m => ?_, fun sample => ?_⟩
  · rw [all]
    exact forall_iff_exists_iff_agree given fun v => (alone v).catches m
  · have catches : rule.catches = fun m => values.all fun v => (alone v).catches m := by
      funext m
      rw [Bool.eq_iff_iff, all, List.all_eq_true]
    rw [deadRules_singleton replayable, catches]

/-- A filter on a query, otherwise blank. -/
def queryFilter (query : String) : Filter := ⟨"", "", Criteria.ofQuery query, .empty⟩

/-- A query for one of two senders, and messages from one of them, both and none. -/
theorem alternatives_all_required_two :
    let values := ["\"Ann\"", "(bob),carl"]
    let f := queryFilter (anyOf .sender values)
    let rule := f.toRule []
    let alone (v : String) := (queryFilter (term .sender v)).toRule []
    let sample := [listMessage "" "ann@x.example", listMessage "" "Carl (for Ann)", listMessage "" "dora"]
    (values ≠ [] ∧ (∀ v ∈ values, IsValue v) ∧
        f.criteria = Criteria.ofQuery "from:\"Ann\" OR from:(bob),carl" ∧
        ∀ v ∈ values, (queryFilter (term .sender v)).criteria = Criteria.ofQuery (term .sender v)) ∧
      rule.isReplayable = true ∧ sample.map rule.catches = [false, true, false] ∧
      (∀ m, rule.catches m = true ↔ ∀ v ∈ values, (alone v).catches m = true) ∧
      ∀ sample, deadRules [rule] (replay [rule] sample) =
        if sample.any fun m => values.all fun v => (alone v).catches m then [] else reported [rule] := by
  intro values f rule alone sample
  have given : values ≠ [] := List.cons_ne_nil _ _
  have usable : ∀ v ∈ values, IsValue v := by decide +kernel
  have singles : ∀ v ∈ values,
      (queryFilter (term .sender v)).criteria = Criteria.ofQuery (term .sender v) := fun v _ => rfl
  have criteria : f.criteria = Criteria.ofQuery (anyOf .sender values) := rfl
  obtain ⟨⟨replayable, -⟩, all, -, dead⟩ := alternatives_all_required given usable criteria singles []
  have spelled : f.criteria = Criteria.ofQuery "from:\"Ann\" OR from:(bob),carl" := by decide
  exact ⟨⟨given, usable, spelled, singles⟩, replayable, by decide +kernel, all, dead⟩

/-- A message from one of two senders is missed by a query for either, and the rule is reported dead. -/
theorem alternatives_one_missed :
    let values := ["ann", "bob"]
    let rule := (queryFilter "from:ann OR from:bob").toRule []
    let alone (v : String) := (queryFilter (term .sender v)).toRule []
    let m := listMessage "" "ann@x.example"
    ("from:ann OR from:bob" = anyOf .sender values ∧ ∀ v ∈ values, IsValue v) ∧
      rule.isReplayable = true ∧
      ¬ (rule.catches m = true ↔ ∃ v ∈ values, (alone v).catches m = true) ∧
      deadRules [rule] (replay [rule] [m]) = reported [rule] := by
  decide +kernel

end InboxAudit.Analysis
