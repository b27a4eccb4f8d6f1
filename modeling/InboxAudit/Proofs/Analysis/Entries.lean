import InboxAudit.Proofs.Analysis.Unreplayed
import Mathlib.Data.Finset.Card

/-!
# Entries of a replay

A replay has one entry for each name of a rule that can be replayed, in the order in which these names first
come (`keys_replay`); rules that cannot be replayed leave no trace, wherever they stand. An entry holds
what the rules of its name catch, rule after rule and message after message (`replay_entries`). An entry that
is empty is still there: this is what tells a rule that matched nothing from one that was never replayed.
-/

namespace InboxAudit.Analysis
set_option autoImplicit false

open InboxAudit.Filter (Rule)
open InboxAudit.Mail (Message MessageId)

theorem length_firstSeen (items : List String) : (firstSeen items).length = items.toFinset.card := by
  have same : (firstSeen items).toFinset = items.toFinset := by
    ext item
    rw [List.mem_toFinset, mem_firstSeen, List.mem_toFinset]
  rw [← same, List.toFinset_card_of_nodup (nodup_firstSeen items)]

/-- A rule adds its name to the keys if it can be replayed. -/
theorem keys_addRule (sample : List Message) (table : Replay) (rule : Rule) :
    (table.addRule sample rule).keys =
      if rule.isReplayable then seenWith table.keys rule.name else table.keys := by
  cases h : rule.isReplayable with
  | false => rw [addRule_of_not_isReplayable h, if_neg Bool.false_ne_true]
  | true =>
    unfold Replay.addRule
    split
    · next e =>
      rw [Rule.isReplayable_of_error e] at h
      cases h
    · rw [Table.keys_put, if_pos rfl, seenWith]

/-- The keys of a replay are the names of the rules that can be replayed, each once. -/
theorem keys_replay (rules : List Rule) (sample : List Message) :
    (replay rules sample).keys = firstSeen ((replayable rules).map (·.name)) := by
  suffices fill : ∀ table : Replay, (rules.foldl (Replay.addRule sample) table).keys =
      ((replayable rules).map (·.name)).foldl seenWith table.keys from fill []
  induction rules with
  | nil => exact fun table => rfl
  | cons rule rest ih =>
    intro table
    have kept : replayable (rule :: rest) =
        if rule.isReplayable then rule :: replayable rest else replayable rest := List.filter_cons
    rw [List.foldl_cons, ih, keys_addRule, kept]
    cases rule.isReplayable with
    | true => rfl
    | false => rfl

theorem wasReplayed_replayable {rules : List Rule} {name : String} :
    wasReplayed (replayable rules) name = true ↔ name ∈ (replayable rules).map (·.name) := by
  rw [wasReplayed, List.any_eq_true, List.mem_map]
  refine exists_congr fun rule => and_congr_right fun mem => ?_
  rw [(mem_replayable.1 mem).2, Bool.true_and, decide_eq_true_eq]

/-- A name has an entry exactly if some rule that can be replayed bears it, and the entry then holds the
messages that these rules catch, in the order of the rules and for each rule in that of the sample. There
are as many entries as such rules have names. -/
theorem replay_entries (rules : List Rule) (sample : List Message) :
    (∀ name, (replay rules sample).get? name =
      if name ∈ (replayable rules).map (·.name) then
        some (((replayable rules).filter (·.name = name)).flatMap (Rule.caught sample))
      else none) ∧
    (replay rules sample).length = ((replayable rules).map (·.name)).toFinset.card := by
  constructor
  · intro name
    rw [← replay_replayable, get?_replay]
    simp only [wasReplayed_replayable]
  · rw [← length_firstSeen, ← keys_replay, Table.keys, List.length_map]

/-- What the second rule catches comes second, though its message comes first. -/
example :
    let rules := (newsFilters "" "").rules .empty
    let table := replay rules [newsLetter "m1" "beta", newsLetter "m2" "alpha", newsLetter "m2" "alpha"]
    table.get? "from:news" = some ["m2", "m2", "m1"] ∧ table.length = 1 := by
  decide +kernel

end InboxAudit.Analysis
