import InboxAudit.Proofs.Analysis.Replay

/-!
# Dead rules

A rule is reported dead if no rule of its name catches a message of the sample
(`deadRules_eq_reported`): the entry that is looked up belongs to the name. A rule that catches
nothing itself is missed exactly if it has a namesake that catches something.
-/

namespace InboxAudit.Analysis
set_option autoImplicit false

open InboxAudit.Filter (Rule Export)
open InboxAudit.Mail (LabelCatalog Message MessageId)

/-- The rule can be replayed and catches no message of the sample. -/
def isIdle (sample : List Message) (rule : Rule) : Bool :=
  rule.isReplayable && !sample.any rule.catches

/-- The rule can be replayed and no rule of its name catches a message of the sample. -/
def isIdleByName (rules : List Rule) (sample : List Message) (rule : Rule) : Bool :=
  rule.isReplayable && rules.all fun other => other.name ≠ rule.name || !sample.any other.catches

/-- Some rules as dead rules. -/
def reported (rules : List Rule) : List DeadRule :=
  rules.map fun rule => ⟨rule.name, "no messages matched in lookback"⟩

variable {rules : List Rule} {sample : List Message}

theorem caught_eq_nil_iff {rule : Rule} :
    rule.caught sample = [] ↔ sample.any rule.catches = false := by
  rw [Rule.caught, List.map_eq_nil_iff, List.filter_eq_nil_iff, List.any_eq_false]

theorem isIdleByName_iff {rule : Rule} :
    isIdleByName rules sample rule = true ↔ rule.isReplayable = true ∧
      ∀ other ∈ rules, other.name = rule.name → sample.any other.catches = false := by
  simp only [isIdleByName, Bool.and_eq_true, List.all_eq_true, Bool.or_eq_true, decide_eq_true_eq,
    Bool.not_eq_true']
  refine and_congr_right fun _ => forall_congr' fun other => imp_congr_right fun _ => ?_
  exact ⟨fun h named => h.resolve_left (· named), fun h => (Decidable.em _).symm.imp_right h⟩

/-- The look-up by name sees the catches of all namesakes. -/
theorem isDead_replay {rule : Rule} (mem : rule ∈ rules) :
    isDead (replay rules sample) rule = isIdleByName rules sample rule := by
  rw [Bool.eq_iff_iff, isIdleByName_iff, isDead, Bool.and_eq_true]
  refine and_congr_right fun replayable => ?_
  have was : wasReplayed rules rule.name = true :=
    List.any_eq_true.2 ⟨rule, mem, by simp [replayable]⟩
  rw [get?_replay, if_pos was, beq_iff_eq, Option.some.injEq, List.flatMap_eq_nil_iff]
  constructor
  · intro empty other mem named
    exact caught_eq_nil_iff.1 (empty other (List.mem_filter.2 ⟨mem, decide_eq_true named⟩))
  · intro idle other mem
    obtain ⟨mem, named⟩ := List.mem_filter.1 mem
    exact caught_eq_nil_iff.2 (idle other mem (of_decide_eq_true named))

theorem deadRules_replay (rules : List Rule) (sample : List Message) :
    deadRules rules (replay rules sample) = reported (rules.filter (isIdleByName rules sample)) := by
  rw [deadRules, reported, List.filter_congr fun rule mem => isDead_replay mem]

theorem isIdle_of_isIdleByName {rule : Rule} (mem : rule ∈ rules)
    (h : isIdleByName rules sample rule = true) : isIdle sample rule = true := by
  obtain ⟨replayable, idle⟩ := isIdleByName_iff.1 h
  simp [isIdle, replayable, idle rule mem rfl]

/-- No idle rule is missed exactly if no idle rule has a namesake that catches something. -/
theorem reported_idle_iff :
    reported (rules.filter (isIdleByName rules sample)) = reported (rules.filter (isIdle sample)) ↔
      ∀ rule ∈ rules, isIdle sample rule = true → isIdleByName rules sample rule = true := by
  constructor
  · intro eq rule mem idle
    have sub : (rules.filter (isIdleByName rules sample)).Sublist (rules.filter (isIdle sample)) := by
      have narrow : rules.filter (isIdleByName rules sample) =
          (rules.filter (isIdle sample)).filter (isIdleByName rules sample) := by
        rw [List.filter_filter]
        refine List.filter_congr fun rule mem => ?_
        cases h : isIdleByName rules sample rule with
        | true => rw [isIdle_of_isIdleByName mem h]; rfl
        | false => rfl
      exact narrow ▸ List.filter_sublist
    have lengths : (rules.filter (isIdleByName rules sample)).length =
        (rules.filter (isIdle sample)).length := by
      simpa [reported] using congrArg List.length eq
    have filters := sub.eq_of_length lengths
    have found : rule ∈ rules.filter (isIdle sample) := List.mem_filter.2 ⟨mem, idle⟩
    exact (List.mem_filter.1 (filters ▸ found)).2
  · intro all
    refine congrArg reported (List.filter_congr fun rule mem => ?_)
    exact Bool.eq_iff_iff.2 ⟨isIdle_of_isIdleByName mem, all rule mem⟩

/-- The dead rules of an export are, in its order, the rules that can be replayed and whose name
no catching rule bears. They are the rules that catch nothing themselves exactly if none of those
shares its name with a rule that catches something. -/
theorem deadRules_eq_reported (e : Export) (catalog : LabelCatalog) (sample : List Message) :
    let rules := e.rules catalog
    deadRules rules (replay rules sample) =
        reported (rules.filter (isIdleByName rules sample)) ∧
      (deadRules rules (replay rules sample) = reported (rules.filter (isIdle sample)) ↔
        ∀ rule ∈ rules, isIdle sample rule = true → ∀ other ∈ rules, other.name = rule.name →
          sample.any other.catches = false) := by
  intro rules
  refine ⟨deadRules_replay rules sample, ?_⟩
  rw [deadRules_replay, reported_idle_iff]
  refine forall_congr' fun rule => imp_congr_right fun _ => imp_congr_right fun idle => ?_
  have replayable : rule.isReplayable = true := (Bool.and_eq_true_iff.1 idle).1
  rw [isIdleByName_iff]
  exact and_iff_right replayable

/-- A rule that catches nothing is missed if its namesake catches a message. -/
theorem deadRules_misses_idle_namesake :
    let rules := (newsFilters "" "").rules .empty
    let sample := [newsLetter "m1" "alpha"]
    deadRules rules (replay rules sample) ≠ reported (rules.filter (isIdle sample)) := by
  decide +kernel

end InboxAudit.Analysis
