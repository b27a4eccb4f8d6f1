import InboxAudit.Proofs.Analysis.ConflictTable

/-!
# Larger samples

What a rule hits among the messages of a sample does not change when messages are added, provided
that an identifier stands for one reading of the headers (`hits_grow_iff`). A larger sample therefore
revives rules and never kills one, and a conflict keeps its key, in whichever orders the messages are
visited (`findings_grow`): the rules that clash on a message are settled by that message alone.
-/

namespace InboxAudit.Analysis
set_option autoImplicit false

open InboxAudit.Filter (Rule)
open InboxAudit.Mail (Message MessageId)

variable {rules : List Rule} {sample larger : List Message}

theorem isIdleByName_of_subset (sub : sample ⊆ larger) {rule : Rule}
    (idle : isIdleByName rules larger rule = true) : isIdleByName rules sample rule = true := by
  obtain ⟨replayable, quiet⟩ := isIdleByName_iff.1 idle
  refine isIdleByName_iff.2 ⟨replayable, fun other mem named => ?_⟩
  rw [List.any_eq_false]
  intro m inSample
  exact List.any_eq_false.1 (quiet other mem named) m (sub inSample)

/-- A rule that is live on the smaller sample stays live. -/
theorem deadRules_sublist (sub : sample ⊆ larger) :
    (deadRules rules (replay rules larger)).Sublist (deadRules rules (replay rules sample)) := by
  rw [deadRules_replay, deadRules_replay]
  apply List.Sublist.map
  exact List.monotone_filter_right rules fun rule => isIdleByName_of_subset sub

section OneMessage

variable (sub : sample ⊆ larger) (readings : HeadersByIdentifier larger) {m : Message}
  (inSample : m ∈ sample)
include sub readings inSample

/-- Whether a rule hits a message of the smaller sample is seen in that sample. -/
theorem hits_grow_iff {rule : Rule} :
    hits (replay rules larger) m.id rule = true ↔ hits (replay rules sample) m.id rule = true := by
  rw [hits_replay_iff, hits_replay_iff]
  constructor
  · rintro ⟨other, mem, named, m', inLarger, same, catches⟩
    rw [Rule.catches_congr (readings m' inLarger m (sub inSample) same) other] at catches
    exact ⟨other, mem, named, m, inSample, rfl, catches⟩
  · rintro ⟨other, mem, named, m', inSample', same, catches⟩
    exact ⟨other, mem, named, m', sub inSample', same, catches⟩

theorem clash?_grow :
    clash? rules (replay rules larger) m.id = clash? rules (replay rules sample) m.id := by
  have hit : hits (replay rules larger) m.id = hits (replay rules sample) m.id := by
    funext rule
    exact Bool.eq_iff_iff.2 (hits_grow_iff sub readings inSample)
  simp only [clash?, hit]

end OneMessage

/-- A larger sample leaves a part of the dead rules, in their order, and a conflict under every key
that the smaller sample had one under, whatever the orders in which the messages of both are visited. -/
theorem findings_grow (rules : List Rule) {sample larger : List Message} (sub : sample ⊆ larger)
    (readings : HeadersByIdentifier larger) {ids ids' : List MessageId}
    (visited : ids.Perm (hitIds rules (replay rules sample)))
    (visited' : ids'.Perm (hitIds rules (replay rules larger))) :
    (deadRules rules (replay rules larger)).Sublist (deadRules rules (replay rules sample)) ∧
      conflictKeys (conflictsOn rules (replay rules sample) ids) ⊆
        conflictKeys (conflictsOn rules (replay rules larger) ids') := by
  refine ⟨deadRules_sublist sub, ?_⟩
  intro key reported
  obtain ⟨id, overlap, rfl⟩ := (mem_conflictKeys visited).1 reported
  have clash := clash?_of_overlap overlap
  obtain ⟨m, inSample, rfl⟩ := exists_message_of_clash? clash
  rw [← clash?_grow sub readings inSample] at clash
  obtain ⟨overlap', same⟩ := clash?_iff_overlap.1 clash
  rw [same]
  exact (mem_conflictKeys visited').2 ⟨m.id, overlap', rfl⟩

/-- A filter on the letters on `gamma`, and one with a negated query. -/
def laterFilters (negated : String) : List Filter :=
  [newsFilter "late" "gamma" .empty,
    ⟨"", negated, { Filter.Criteria.empty with query := "-is:chat" }, ⟨[], ["INBOX"], ""⟩⟩]

/-- A letter on `gamma` revives a rule, and the conflict on the other letter stays. The letter on `gamma` stands in
the sample twice, once with its headers the other way round. -/
theorem findings_grow_revived :
    let rules := (⟨(newsFilters "shelve" "keep").filters ++ laterFilters "keep", []⟩ :
      Filter.Export).rules .empty
    let sample := [newsLetter "m1" "alpha beta"]
    let larger := [newsLetter "m2" "gamma", newsLetter "m1" "alpha beta",
      ⟨"m2", [], [("Subject", "gamma"), ("From", "news")]⟩]
    let keys (table : Replay) (ids : List MessageId) := conflictKeys (conflictsOn rules table ids)
    (sample ⊆ larger ∧ HeadersByIdentifier larger ∧ ["m1"].Perm (hitIds rules (replay rules sample)) ∧
        ["m2", "m1"].Perm (hitIds rules (replay rules larger))) ∧
      (deadRules rules (replay rules sample)).map (·.name) = ["late"] ∧
      keys (replay rules sample) ["m1"] = ["keep|shelve"] ∧
      (deadRules rules (replay rules larger)).Sublist (deadRules rules (replay rules sample)) ∧
      keys (replay rules sample) ["m1"] ⊆ keys (replay rules larger) ["m2", "m1"] := by
  intro rules sample larger keys
  have sub : sample ⊆ larger := by decide
  have readings : HeadersByIdentifier larger :=
    headersByIdentifier_of_perm (by decide +kernel) (by decide +kernel)
  have visited : ["m1"].Perm (hitIds rules (replay rules sample)) := by decide +kernel
  have visited' : ["m2", "m1"].Perm (hitIds rules (replay rules larger)) := by decide +kernel
  exact ⟨⟨sub, readings, visited, visited'⟩, by decide +kernel, by decide +kernel,
    findings_grow rules sub readings visited visited'⟩

end InboxAudit.Analysis
