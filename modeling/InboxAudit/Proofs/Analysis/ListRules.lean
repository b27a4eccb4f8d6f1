import InboxAudit.Proofs.Analysis.Adoption
import InboxAudit.Proofs.Mail.Decoration

/-!
# Rules on decorated lists

A list is written with or without brackets and white space around it, in the criterion of a filter and
in the header of a message alike. Both are compared without them, so a filter on a list catches the
messages of the list however the two are written (`list_rule_catches_decorated`).
-/

namespace InboxAudit.Analysis
set_option autoImplicit false

open InboxAudit.Filter (Criteria Matcher Query.listMatcher?)
open InboxAudit.Mail (IsDecorated Message listId listId_of_isDecorated)
open InboxAudit.Mail.ListId (IsBare IsSettled)
open InboxAudit.Text (lowerCase lowerCase_eq_nil_iff)

theorem lowerCase_ne_empty {id : String} (bare : IsBare id.toList) :
    String.ofList (lowerCase id.toList) ≠ "" := by
  intro empty
  have nothing : lowerCase id.toList = [] := by simpa using congrArg String.toList empty
  exact bare.filled (lowerCase_eq_nil_iff.1 nothing)

theorem list_mem_headerMatchers {c : Criteria} (filled : listId c.list ≠ "") :
    Matcher.list (listId c.list) ∈ c.headerMatchers := by
  have listed : Query.listMatcher? c.list = some (.list (listId c.list)) := by
    rw [Query.listMatcher?, if_neg filled]
  rw [Criteria.headerMatchers, listed]
  exact List.mem_filterMap.2 ⟨_, by simp, rfl⟩

/-- The identifier of a decorated text is the text in lower case. A filter on it, however it is decorated, tests
for this identifier, and every message of the list meets the test, however its header is decorated. A filter on
nothing else can be replayed and catches these messages. -/
theorem list_rule_catches_decorated {id : String} (bare : IsBare id.toList) :
    let test := Matcher.list (String.ofList (lowerCase id.toList))
    (∀ text, IsDecorated text id → listId text = String.ofList (lowerCase id.toList)) ∧
      (∀ m : Message, IsDecorated (m.header "List-Id") id → test.holds m = true) ∧
      ∀ f : Filter, IsDecorated f.criteria.list id →
        test ∈ f.criteria.headerMatchers ∧
        (f.criteria = Criteria.ofList f.criteria.list → ∀ names,
          (f.toRule names).isReplayable = true ∧
            ∀ m : Message, IsDecorated (m.header "List-Id") id → (f.toRule names).catches m = true) := by
  intro test
  have named (text : String) (decorated : IsDecorated text id) :
      listId text = String.ofList (lowerCase id.toList) := listId_of_isDecorated bare decorated
  have holds (m : Message) (header : IsDecorated (m.header "List-Id") id) : test.holds m = true := by
    have same : String.ofList (lowerCase id.toList) = listId (m.header "List-Id") := (named _ header).symm
    exact Matcher.list_holds_iff.2 (same ▸ List.infix_rfl)
  refine ⟨named, holds, fun f decorated => ?_⟩
  have filled : listId f.criteria.list ≠ "" := named _ decorated ▸ lowerCase_ne_empty bare
  constructor
  · have mem := list_mem_headerMatchers filled
    rwa [named _ decorated] at mem
  · intro only names
    have matchers : (f.toRule names).matchers = .ok [test] := by
      rw [Filter.toRule, only, Criteria.matchers_ofList filled, named _ decorated]
    refine ⟨Filter.Rule.isReplayable_of_ok matchers, fun m header => ?_⟩
    rw [Filter.Rule.catches_of_ok matchers, Filter.holdsAll, List.all_cons, holds m header]
    rfl

theorem list_rule_catches_decorated_spaced :
    let id := "News <of> Σ.example"
    let f := listFilter "\n<<News <of> Σ.example>\t>"
    let m := listMessage " < News <of> Σ.example>" ""
    (IsBare id.toList ∧ IsDecorated f.criteria.list id ∧ IsDecorated (m.header "List-Id") id) ∧
      (f.toRule []).isReplayable = true ∧ (f.toRule []).catches m = true := by
  intro id f m
  have settled : IsSettled id.toList := by
    have first : id.toList.head? = some 'N' := by decide
    have last : id.toList.getLast? = some 'e' := by decide
    constructor
    · rw [first]
      rintro _ ⟨⟩
      decide
    · rw [last]
      rintro _ ⟨⟩
      decide
  have bare : IsBare id.toList := ⟨by decide, by decide, settled, by decide, by decide⟩
  have criterion : IsDecorated f.criteria.list id :=
    ⟨"\n<<", ">\t>", by decide, List.all_eq_true.1 (by decide), List.all_eq_true.1 (by decide)⟩
  have header : IsDecorated (m.header "List-Id") id :=
    ⟨" < ", ">", by decide, List.all_eq_true.1 (by decide), List.all_eq_true.1 (by decide)⟩
  obtain ⟨-, rule⟩ := (list_rule_catches_decorated bare).2.2 f criterion
  obtain ⟨replayable, catches⟩ := rule rfl []
  exact ⟨⟨bare, criterion, header⟩, replayable, catches m header⟩

end InboxAudit.Analysis
