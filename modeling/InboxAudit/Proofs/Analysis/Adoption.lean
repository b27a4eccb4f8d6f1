import InboxAudit.Proofs.Analysis.DeadRules
import InboxAudit.Proofs.Analysis.Ranking
import InboxAudit.Proofs.Filter.Criteria
import InboxAudit.Proofs.Mail.Domain
import InboxAudit.Proofs.Mail.ListId
import Mathlib.Data.List.TakeWhile

/-!
# Adopting suggestions

What becomes of a suggested filter that is replayed over the sample it was suggested for. A list
suggestion catches every message of its list (`list_suggestion_adopted`). A sender suggestion asks
for a star before the at sign, and headers are searched for that star itself: unless the domain
falls into several candidates, a message is caught only if its sender holds the suggested text
(`sender_suggestion_adopted`).
-/

namespace InboxAudit.Analysis
set_option autoImplicit false

open InboxAudit.Filter (Criteria Export Rule Matcher labelNames)
open InboxAudit.Filter.Candidates (firstPart otherParts isSeparator isWrapper split split_star ofText)
open InboxAudit.Mail (LabelCatalog Message)
open InboxAudit.Mail.ListId (isDecoration)
open InboxAudit.Text (IsLower lowerCase mem_of_mem_lowerCase trimEnd)

/-- A rule that catches a message of the sample is not reported, and no namesake of it. -/
theorem name_ne_of_mem_deadRules {rules : List Rule} {sample : List Message} {rule : Rule}
    (mem : rule ∈ rules) (caught : ∃ m ∈ sample, rule.catches m = true) :
    ∀ d ∈ deadRules rules (replay rules sample), d.name ≠ rule.name := by
  intro d reported named
  rw [deadRules_replay] at reported
  obtain ⟨other, dead, rfl⟩ := List.mem_map.1 reported
  obtain ⟨-, idle⟩ := isIdleByName_iff.1 (List.mem_filter.1 dead).2
  have missed := idle rule mem (Eq.symm named)
  obtain ⟨m, inSample, catches⟩ := caught
  rw [List.any_eq_false] at missed
  exact missed m inSample catches

theorem catches_ofList_iff {f : Filter} {names : Table String} {id : String}
    (criteria : f.criteria = Criteria.ofList id) (filled : Mail.listId id ≠ "") {m : Message} :
    (f.toRule names).catches m = true ↔ (Mail.listId id).toList <:+: (messageList m).toList := by
  have matchers : (f.toRule names).matchers = .ok [.list (Mail.listId id)] := by
    rw [Filter.toRule, criteria, Criteria.matchers_ofList filled]
  rw [Rule.catches_of_ok matchers]
  simp [Filter.holdsAll, Matcher.list_holds_iff, messageList]

/-- A filter on the list of a ranking, if that has a character besides decoration, can be replayed,
catches every message of the list, and its name is not reported dead. -/
theorem list_suggestion_adopted {top : Nat} {sample : List Message} {row : Standing}
    (listed : row ∈ topLists top sample) (named : ∃ c ∈ row.key.toList, isDecoration c = false)
    {e : Export} {f : Filter} (mem : f ∈ e.filters) (criteria : f.criteria = Criteria.ofList row.key)
    (catalog : LabelCatalog) :
    let rule := f.toRule (labelNames e catalog)
    rule ∈ e.rules catalog ∧ rule.isReplayable = true ∧
      (∀ m, messageList m = row.key → rule.catches m = true) ∧
      ∀ d ∈ deadRules (e.rules catalog) (replay (e.rules catalog) sample), d.name ≠ rule.name := by
  intro rule
  obtain ⟨-, first, inSample, key⟩ := exists_message_of_mem_ranking listed
  have part : (Mail.listId row.key).toList <:+: row.key.toList := by
    rw [← key]
    exact Mail.isInfix_listId_listId _
  have filled : Mail.listId row.key ≠ "" := by
    obtain ⟨c, inKey, plain⟩ := named
    rw [← key] at inKey ⊢
    intro empty
    have kept := Mail.mem_listId_listId plain inKey
    rw [← messageList, empty] at kept
    cases kept
  have compiled : rule ∈ e.rules catalog := List.mem_map.2 ⟨f, mem, rfl⟩
  have catches (m : Message) (onList : messageList m = row.key) : rule.catches m = true := by
    rw [catches_ofList_iff criteria filled, onList]
    exact part
  exact ⟨compiled, Rule.isReplayable_of_catches (catches first key), catches,
    name_ne_of_mem_deadRules compiled ⟨first, inSample, catches first key⟩⟩

/-- A filter on one list, otherwise blank. -/
def listFilter (id : String) : Filter := ⟨"", "", Criteria.ofList id, .empty⟩

/-- Read again, the identifier of this list loses its brackets. -/
theorem list_suggestion_adopted_quoted :
    let sample := [listMessage "\"<News.example.org>\"" ""]
    let row : Standing := ⟨"<news.example.org>", 1, ""⟩
    let e : Export := ⟨[listFilter row.key], []⟩
    let rule := (listFilter row.key).toRule (labelNames e .empty)
    (row ∈ topLists 5 sample ∧ ∃ c ∈ row.key.toList, isDecoration c = false) ∧
      rule ∈ e.rules .empty ∧ rule.isReplayable = true ∧
      (∀ m, messageList m = row.key → rule.catches m = true) ∧
      ∀ d ∈ deadRules (e.rules .empty) (replay (e.rules .empty) sample), d.name ≠ rule.name := by
  intro sample row e rule
  have listed : row ∈ topLists 5 sample := by
    rw [topLists, ranking_singleton]
    decide
  have named : ∃ c ∈ row.key.toList, isDecoration c = false := ⟨'n', by decide, by decide⟩
  have mem : listFilter row.key ∈ e.filters := List.mem_singleton_self _
  exact ⟨⟨listed, named⟩, list_suggestion_adopted listed named mem rfl .empty⟩

/-- What a suggested filter on a domain looks for in the sender of a message. -/
def starCandidates (domain : List Char) : List (List Char) :=
  ('*' :: '@' :: trimEnd isWrapper (firstPart domain)) :: split (otherParts domain)

theorem starCandidates_of_no_separator {domain : List Char}
    (whole : ∀ c ∈ domain, isSeparator c = false) :
    starCandidates domain = ['*' :: '@' :: trimEnd isWrapper domain] := by
  have first : firstPart domain = domain :=
    List.takeWhile_eq_self_iff.2 fun c mem => by simp [whole c mem]
  have others : otherParts domain = [] :=
    List.dropWhile_eq_nil_iff.2 fun c mem => by simp [whole c mem]
  have nothing : split [] = [] := by decide
  rw [starCandidates, first, others, nothing]

section Sender

variable {f : Filter} {names : Table String} {domain : String}

theorem matchers_star (criteria : f.criteria = Criteria.ofSender ("*@" ++ domain))
    (lower : ∀ c ∈ domain.toList, IsLower c) :
    (f.toRule names).matchers =
      .ok [.text .sender ((starCandidates domain.toList).map String.ofList)] := by
  have candidates : ofText ("*@" ++ domain) =
      (starCandidates domain.toList).map String.ofList := by
    have text : ("*@" ++ domain).toList = '*' :: '@' :: domain.toList := by simp
    rw [ofText, text, split_star lower, starCandidates]
  have filled : ofText ("*@" ++ domain) ≠ [] := by
    rw [candidates]
    exact List.cons_ne_nil _ _
  rw [Filter.toRule, criteria, Criteria.matchers_ofSender filled, candidates]

theorem catches_star_iff (criteria : f.criteria = Criteria.ofSender ("*@" ++ domain))
    (lower : ∀ c ∈ domain.toList, IsLower c) {m : Message} :
    (f.toRule names).catches m = true ↔
      ∃ c ∈ starCandidates domain.toList, c <:+: lowerCase (m.header "From").toList := by
  rw [Rule.catches_of_ok (matchers_star criteria lower), Filter.holdsAll, List.all_cons,
    List.all_nil, Bool.and_true, Matcher.text_holds_iff]
  rfl

end Sender

theorem isLower_of_mem_senderKey {top : Nat} {sample : List Message} {row : Standing}
    (listed : row ∈ topSenders top sample) : ∀ c ∈ row.key.toList, IsLower c := by
  obtain ⟨-, m, -, key⟩ := exists_message_of_mem_ranking listed
  intro c mem
  rw [← key, messageDomain, Mail.senderDomain, String.toList_ofList] at mem
  exact Mail.isLower_of_mem_domainOf mem

/-- A rule on its own is dead exactly if it catches nothing. -/
theorem deadRules_singleton {rule : Rule} (replayable : rule.isReplayable = true)
    (sample : List Message) :
    deadRules [rule] (replay [rule] sample) = if sample.any rule.catches then [] else reported [rule] := by
  rw [deadRules_replay]
  have idle : isIdleByName [rule] sample rule = !sample.any rule.catches := by
    simp [isIdleByName, replayable]
  cases caught : sample.any rule.catches <;> simp [List.filter, idle, caught, reported]

/-- A filter on the suggested sender of a ranking can be replayed. It catches the messages whose
sender, in lower case, holds one of the candidates, the first of which begins with a star; it is
reported dead exactly if there is no such message, as it is where the domain has no separator and no
sender of the sample a star. -/
theorem sender_suggestion_adopted {top : Nat} {sample : List Message} {row : Standing}
    (listed : row ∈ topSenders top sample) {e : Export} {f : Filter} (only : e.filters = [f])
    (criteria : f.criteria = Criteria.ofSender ("*@" ++ row.key)) (catalog : LabelCatalog) :
    let rule := f.toRule (labelNames e catalog)
    e.rules catalog = [rule] ∧ rule.isReplayable = true ∧
      (∀ m, rule.catches m = true ↔
        ∃ c ∈ starCandidates row.key.toList, c <:+: lowerCase (m.header "From").toList) ∧
      deadRules (e.rules catalog) (replay (e.rules catalog) sample) =
        (if sample.any rule.catches then [] else reported [rule]) ∧
      ((∀ c ∈ row.key.toList, isSeparator c = false) →
        (∀ m ∈ sample, '*' ∉ (m.header "From").toList) →
          deadRules (e.rules catalog) (replay (e.rules catalog) sample) = reported [rule]) := by
  intro rule
  have lower := isLower_of_mem_senderKey listed
  have compiled : e.rules catalog = [rule] := by
    rw [Export.rules, only, List.map_singleton]
  have replayable : rule.isReplayable = true := by
    rw [Rule.isReplayable, matchers_star criteria lower]
    rfl
  have catches (m : Message) : rule.catches m = true ↔
      ∃ c ∈ starCandidates row.key.toList, c <:+: lowerCase (m.header "From").toList :=
    catches_star_iff criteria lower
  refine ⟨compiled, replayable, catches, ?_, fun noSeparator noStar => ?_⟩
  · rw [compiled, deadRules_singleton replayable]
  · have none : sample.any rule.catches = false := by
      rw [List.any_eq_false]
      intro m inSample caught
      obtain ⟨c, mem, part⟩ := (catches m).1 caught
      rw [starCandidates_of_no_separator noSeparator, List.mem_singleton] at mem
      have star : '*' ∈ lowerCase (m.header "From").toList := part.mem (mem ▸ List.mem_cons_self)
      exact noStar m inSample (mem_of_mem_lowerCase (by decide) (by decide) star)
    rw [compiled, deadRules_singleton replayable, none]
    rfl

/-- A filter on one sender, otherwise blank. -/
def senderFilter (value : String) : Filter := ⟨"", "", Criteria.ofSender value, .empty⟩

theorem sender_suggestion_adopted_plain :
    let sample := [listMessage "" "Ann <Ann@mail.Example>"]
    let row : Standing := ⟨"mail.example", 1, ""⟩
    let e : Export := ⟨[senderFilter "*@mail.example"], []⟩
    let rule := (senderFilter "*@mail.example").toRule (labelNames e .empty)
    row ∈ topSenders 5 sample ∧ (∀ c ∈ row.key.toList, isSeparator c = false) ∧
      (∀ m ∈ sample, '*' ∉ (m.header "From").toList) ∧
      deadRules (e.rules .empty) (replay (e.rules .empty) sample) = reported [rule] := by
  intro sample row e rule
  have listed : row ∈ topSenders 5 sample := by
    rw [topSenders, ranking_singleton]
    decide
  have noSeparator : ∀ c ∈ row.key.toList, isSeparator c = false := by
    have all : (row.key.toList.all fun c => !isSeparator c) = true := by decide
    simpa using all
  have noStar : ∀ m ∈ sample, '*' ∉ (m.header "From").toList := by decide
  have criteria : (senderFilter "*@mail.example").criteria = Criteria.ofSender ("*@" ++ row.key) := by
    decide
  have only : e.filters = [senderFilter "*@mail.example"] := rfl
  obtain ⟨-, -, -, -, dead⟩ := sender_suggestion_adopted listed only criteria .empty
  exact ⟨listed, noSeparator, noStar, dead noSeparator noStar⟩

/-- The message that a domain was counted for is not caught by the filter suggested for it. -/
theorem sender_suggestion_misses_counted :
    let sample := [listMessage "" "a@x.example"]
    let row : Standing := ⟨"x.example", 1, ""⟩
    let e : Export := ⟨[senderFilter "*@x.example"], []⟩
    let rule := (senderFilter "*@x.example").toRule (labelNames e .empty)
    row ∈ topSenders 5 sample ∧
      (¬ ∀ m ∈ sample, messageDomain m = row.key → rule.catches m = true) ∧
      deadRules (e.rules .empty) (replay (e.rules .empty) sample) = reported [rule] := by
  intro sample row e rule
  rw [topSenders, ranking_singleton]
  decide

end InboxAudit.Analysis
