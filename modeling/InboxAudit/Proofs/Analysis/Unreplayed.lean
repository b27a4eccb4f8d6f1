import InboxAudit.Proofs.Analysis.ConflictKeys

/-!
# Rules that were not replayed

A rule that cannot be replayed leaves no trace in a replay (`replay_replayable`). It is told from the
others by its name alone, though: where a namesake was replayed, the messages of the namesake count as
hit by both. Leaving such rules out keeps the conflicts as they are wherever the replayable rules
overlap by themselves and bear every name that takes part (`conflicts_replayable`), so always where no
such rule has a namesake that catches something; it need not keep them otherwise
(`conflict_of_unreplayed_namesake`).
-/

namespace InboxAudit.Analysis
set_option autoImplicit false

open InboxAudit.Filter (Rule Export)
open InboxAudit.Mail (Message MessageId)

/-- The rules that can be replayed, in their order. -/
def replayable (rules : List Rule) : List Rule := rules.filter Rule.isReplayable

variable {rules : List Rule} {sample : List Message} {table : Replay} {id : MessageId}

theorem mem_replayable {rule : Rule} :
    rule ∈ replayable rules ↔ rule ∈ rules ∧ rule.isReplayable = true :=
  List.mem_filter

theorem addRule_of_not_isReplayable {rule : Rule} (h : rule.isReplayable = false)
    (sample : List Message) (table : Replay) : table.addRule sample rule = table := by
  unfold Replay.addRule
  split
  · rfl
  · next e =>
    rw [Rule.isReplayable, e] at h
    cases h

/-- The replay of some rules is that of those that can be replayed. -/
theorem replay_replayable (rules : List Rule) (sample : List Message) :
    replay (replayable rules) sample = replay rules sample := by
  rw [replay, replayable, List.foldl_filter, replay]
  congr 1
  funext table rule
  cases h : rule.isReplayable with
  | true => rfl
  | false => exact (addRule_of_not_isReplayable h sample table).symm

/-- What a rule hits is hit by a namesake that can be replayed. -/
theorem exists_replayable_of_hits {rule : Rule}
    (hit : hits (replay rules sample) id rule = true) :
    ∃ other ∈ replayable rules, other.name = rule.name ∧
      (∃ m ∈ sample, other.catches m = true) ∧ hits (replay rules sample) id other = true := by
  obtain ⟨other, mem, named, m, inSample, same, catches⟩ := hits_replay_iff.1 hit
  refine ⟨other, mem_replayable.2 ⟨mem, Rule.isReplayable_of_catches catches⟩, named,
    ⟨m, inSample, catches⟩, ?_⟩
  exact hits_replay_iff.2 ⟨other, mem, rfl, m, inSample, same, catches⟩

theorem nodup_hitIds : (hitIds rules table).Nodup := nodup_firstSeen _

/-- The same messages are visited, perhaps in another order. -/
theorem hitIds_replayable_perm :
    (hitIds (replayable rules) (replay rules sample)).Perm (hitIds rules (replay rules sample)) := by
  rw [List.perm_ext_iff_of_nodup nodup_hitIds nodup_hitIds]
  intro id
  rw [mem_hitIds, mem_hitIds]
  constructor
  · rintro ⟨rule, mem, hit⟩
    exact ⟨rule, (mem_replayable.1 mem).1, hit⟩
  · rintro ⟨rule, -, hit⟩
    obtain ⟨other, mem, -, -, hit'⟩ := exists_replayable_of_hits hit
    exact ⟨other, mem, hit'⟩

/-- If rules overlap on the message, replayable ones do, and they bear every name that takes part. -/
def SettledByReplayable (rules : List Rule) (table : Replay) (id : MessageId) : Prop :=
  Overlap rules table id → Overlap (replayable rules) table id ∧
    ∀ rule ∈ rules, partakes table id rule = true →
      ∃ other ∈ replayable rules, partakes table id other = true ∧ other.name = rule.name

theorem Overlap.of_replayable (h : Overlap (replayable rules) table id) : Overlap rules table id := by
  obtain ⟨⟨a, memA, actsA⟩, ⟨b, memB, actsB⟩⟩ := h
  exact ⟨⟨a, (mem_replayable.1 memA).1, actsA⟩, ⟨b, (mem_replayable.1 memB).1, actsB⟩⟩

theorem mem_overlapping {name : String} : name ∈ overlapping rules table id ↔
    ∃ rule ∈ rules, partakes table id rule = true ∧ rule.name = name := by
  simp only [overlapping, Names.mem_ofList, List.mem_map, List.mem_filter, and_assoc]

theorem clash?_eq_none_of_not_overlap (h : ¬ Overlap rules table id) : clash? rules table id = none := by
  rw [Option.eq_none_iff_forall_ne_some]
  intro names clash
  exact h (clash?_iff_overlap.1 clash).1

/-- A message keeps its clash exactly if the replayable rules settle it. -/
theorem clash?_replayable_iff : clash? (replayable rules) table id = clash? rules table id ↔
    SettledByReplayable rules table id := by
  constructor
  · intro same overlap
    rw [clash?_of_overlap overlap] at same
    obtain ⟨overlap', names⟩ := clash?_iff_overlap.1 same
    refine ⟨overlap', fun rule mem part => ?_⟩
    apply mem_overlapping.1
    rw [← names]
    exact mem_overlapping.2 ⟨rule, mem, part, rfl⟩
  · intro settled
    by_cases overlap : Overlap rules table id
    · obtain ⟨overlap', borne⟩ := settled overlap
      rw [clash?_of_overlap overlap, clash?_of_overlap overlap']
      congr 1
      apply (Names.ascending_ofList _).eq_of_mem_iff (Names.ascending_ofList _)
      intro name
      rw [← overlapping, ← overlapping, mem_overlapping, mem_overlapping]
      constructor
      · rintro ⟨rule, mem, part, named⟩
        exact ⟨rule, (mem_replayable.1 mem).1, part, named⟩
      · rintro ⟨rule, mem, part, rfl⟩
        exact borne rule mem part
    · rw [clash?_eq_none_of_not_overlap overlap,
        clash?_eq_none_of_not_overlap fun overlap' => overlap overlap'.of_replayable]

/-- No rule that archives or stars and cannot be replayed shares its name with one that catches
something. -/
def NoActiveNamesake (rules : List Rule) (sample : List Message) : Prop :=
  ∀ rule ∈ rules, rule.isReplayable = false → rule.effect.archive = true ∨ rule.effect.star = true →
    ∀ other ∈ rules, other.name = rule.name → sample.any other.catches = false

instance (rules : List Rule) (sample : List Message) : Decidable (NoActiveNamesake rules sample) :=
  inferInstanceAs (Decidable (∀ rule ∈ rules, _ → _ → ∀ other ∈ rules, _ → _))

theorem NoActiveNamesake.mem_replayable (h : NoActiveNamesake rules sample) {rule : Rule}
    (mem : rule ∈ rules) (hit : hits (replay rules sample) id rule = true)
    (acts : rule.effect.archive = true ∨ rule.effect.star = true) : rule ∈ replayable rules := by
  refine Analysis.mem_replayable.2 ⟨mem, ?_⟩
  by_contra notReplayable
  obtain ⟨other, mem', named, ⟨m, inSample, catches⟩, -⟩ := exists_replayable_of_hits hit
  have quiet := h rule mem (Bool.eq_false_iff.2 notReplayable) acts other
    (Analysis.mem_replayable.1 mem').1 named
  exact List.any_eq_false.1 quiet m inSample catches

theorem NoActiveNamesake.settled (h : NoActiveNamesake rules sample) (id : MessageId) :
    SettledByReplayable rules (replay rules sample) id := by
  rintro ⟨⟨a, memA, hitA, archives⟩, ⟨b, memB, hitB, stars⟩⟩
  refine ⟨⟨⟨a, h.mem_replayable memA hitA (.inl archives), hitA, archives⟩,
    ⟨b, h.mem_replayable memB hitB (.inr stars), hitB, stars⟩⟩, fun rule mem part => ?_⟩
  obtain ⟨hit, acts⟩ := partakes_iff.1 part
  exact ⟨rule, h.mem_replayable mem hit acts, part, rfl⟩

/-- Leaving out the rules that cannot be replayed changes neither the replay nor the messages that
are visited. A message keeps its clash exactly if the replayable rules settle it, and if they settle
all messages the list of conflicts is the same for every order in which the messages are visited. They
settle all if no rule that is left out and archives or stars has a namesake that catches something. -/
theorem conflicts_replayable (rules : List Rule) (sample : List Message) :
    let kept := replayable rules
    let table := replay rules sample
    replay kept sample = table ∧ (hitIds kept table).Perm (hitIds rules table) ∧
      (∀ id, clash? kept table id = clash? rules table id ↔ SettledByReplayable rules table id) ∧
      (∀ ids : List MessageId, (∀ id ∈ ids, SettledByReplayable rules table id) →
        conflictsOn kept table ids = conflictsOn rules table ids) ∧
      (NoActiveNamesake rules sample → ∀ id, SettledByReplayable rules table id) := by
  intro kept table
  refine ⟨replay_replayable rules sample, hitIds_replayable_perm, fun id => clash?_replayable_iff,
    fun ids settled => ?_, NoActiveNamesake.settled⟩
  have same : ids.filterMap (clash? kept table) = ids.filterMap (clash? rules table) :=
    List.filterMap_congr fun id mem => clash?_replayable_iff.2 (settled id mem)
  rw [conflictsOn, conflictsOn, same]

/-- A filter on `news` that stars, and one with a negated query that archives. -/
def unreplayedFilters (starrer archiver : String) : Export :=
  ⟨[newsFilter starrer "" ⟨["STARRED"], [], ""⟩,
    ⟨"", archiver, { Filter.Criteria.empty with query := "-is:chat" }, ⟨[], ["INBOX"], ""⟩⟩], []⟩

theorem conflicts_replayable_apart :
    let rules := ((unreplayedFilters "keep" "chats").filters ++ (newsFilters "shelve" "mark").filters)
      |>.map (·.toRule [])
    let sample := [newsLetter "m1" "alpha"]
    NoActiveNamesake rules sample ∧ replayable rules ≠ rules ∧
      (conflictsOn rules (replay rules sample) ["m1"]).map (·.rules) = [["keep", "shelve"]] ∧
      conflictsOn (replayable rules) (replay rules sample) ["m1"] =
        conflictsOn rules (replay rules sample) ["m1"] := by
  intro rules sample
  have apart : NoActiveNamesake rules sample := by decide +kernel
  obtain ⟨-, -, -, kept, settled⟩ := conflicts_replayable rules sample
  refine ⟨apart, ?_, by decide +kernel, kept ["m1"] fun id _ => settled apart id⟩
  exact fun same => absurd (congrArg List.length same) (by decide +kernel)

/-- A rule that was never replayed makes a conflict out of the messages of its namesake. -/
theorem conflict_of_unreplayed_namesake :
    let rules := (unreplayedFilters "news" "news").rules .empty
    let sample := [newsLetter "m1" "alpha"]
    (conflicts rules (replay rules sample)).map (·.rules) = [["news"]] ∧
      conflicts (replayable rules) (replay (replayable rules) sample) = [] := by
  decide +kernel

end InboxAudit.Analysis
