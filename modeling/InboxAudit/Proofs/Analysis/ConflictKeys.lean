import InboxAudit.Proofs.Analysis.Order

/-!
# Keys of conflicts

Conflicts are kept under the joined names of their rules, so one conflict is listed for every key
and not for every set of rules. All clashing sets are listed exactly if no two of them have the same
key, whatever the order in which the messages are visited (`overlaps_reported_iff`). Sets whose
names hold no bar have keys of their own (`conflictKey_injective`); with bars in the names a set can
be lost, and which one depends on that order (`overlap_lost_under_common_key`).
-/

namespace InboxAudit.Analysis
set_option autoImplicit false

open InboxAudit.Filter (Rule Export)
open InboxAudit.Mail (LabelCatalog Message MessageId)

/-- Without bars in the names, a set of rules can be read off its key. -/
theorem conflictKey_injective {names names' : List String}
    (nonempty : names ≠ []) (nonempty' : names' ≠ [])
    (barless : ∀ name ∈ names, '|' ∉ name.toList) (barless' : ∀ name ∈ names', '|' ∉ name.toList)
    (same : conflictKey names = conflictKey names') : names = names' := by
  have split {names : List String} (nonempty : names ≠ [])
      (barless : ∀ name ∈ names, '|' ∉ name.toList) :
      (conflictKey names).toList.splitOn '|' = names.map String.toList := by
    rw [conflictKey, String.toList_intercalate]
    apply List.splitOn_intercalate '|'
    · simpa using barless
    · simpa using nonempty
  have letters : names.map String.toList = names'.map String.toList := by
    rw [← split nonempty barless, ← split nonempty' barless', same]
  exact List.map_injective_iff.2 (fun _ _ => String.toList_inj.1) letters

variable {rules : List Rule} {sample : List Message} {id : MessageId} {ids : List MessageId}

/-- An archiving and a starring rule hit the message. -/
def Overlap (rules : List Rule) (table : Replay) (id : MessageId) : Prop :=
  (∃ a ∈ rules, hits table id a = true ∧ a.effect.archive = true) ∧
    ∃ b ∈ rules, hits table id b = true ∧ b.effect.star = true

instance (rules : List Rule) (table : Replay) (id : MessageId) : Decidable (Overlap rules table id) :=
  inferInstanceAs (Decidable (_ ∧ _))

/-- The names of the archiving and the starring rules that hit the message, in ascending order. -/
def overlapping (rules : List Rule) (table : Replay) (id : MessageId) : List String :=
  Names.ofList ((rules.filter (partakes table id)).map (·.name))

theorem clash?_iff_overlap {table : Replay} {names : List String} :
    clash? rules table id = some names ↔ Overlap rules table id ∧ names = overlapping rules table id := by
  rw [clash?_eq_some_iff, Overlap, overlapping, and_assoc]

theorem clash?_of_overlap {table : Replay} (overlap : Overlap rules table id) :
    clash? rules table id = some (overlapping rules table id) :=
  clash?_iff_overlap.2 ⟨overlap, rfl⟩

theorem keysTellApart_of_barless
    (barless : ∀ rule ∈ rules, rule.effect.archive = true ∨ rule.effect.star = true →
      '|' ∉ rule.name.toList) : KeysTellApart rules sample := by
  have named {id : MessageId} {names : List String}
      (clash : clash? rules (replay rules sample) id = some names) :
      names ≠ [] ∧ ∀ name ∈ names, '|' ∉ name.toList := by
    constructor
    · obtain ⟨⟨⟨a, mem, hit, archives⟩, -⟩, -⟩ := clash?_iff_overlap.1 clash
      exact List.ne_nil_of_mem
        ((mem_of_clash? clash).2 ⟨a, mem, partakes_iff.2 ⟨hit, .inl archives⟩, rfl⟩)
    · intro name listed
      obtain ⟨rule, mem, part, rfl⟩ := (mem_of_clash? clash).1 listed
      exact barless rule mem (partakes_iff.1 part).2
  intro m _ m' _ names clash names' clash' same
  obtain ⟨nonempty, free⟩ := named clash
  obtain ⟨nonempty', free'⟩ := named clash'
  exact conflictKey_injective nonempty nonempty' free free' same

/-- No two conflicts of a list have the same key. -/
theorem nodup_conflictKeys (rules : List Rule) (table : Replay) (ids : List MessageId) :
    ((conflictsOn rules table ids).map fun c => conflictKey c.rules).Nodup :=
  (ascending_conflictsOn rules table ids).nodup_map

theorem nodup_conflictRules (rules : List Rule) (table : Replay) (ids : List MessageId) :
    ((conflictsOn rules table ids).map (·.rules)).Nodup := by
  have keys := nodup_conflictKeys rules table ids
  rw [← Function.comp_def conflictKey Conflict.rules, ← List.map_map] at keys
  exact List.Nodup.of_map conflictKey keys

/-- If the sets of all overlaps are reported, no two of them have the same key. -/
theorem keysTellApart_of_reported (ids : List MessageId)
    (reported : ∀ id, Overlap rules (replay rules sample) id →
      overlapping rules (replay rules sample) id ∈
        (conflictsOn rules (replay rules sample) ids).map (·.rules)) :
    KeysTellApart rules sample := by
  intro m _ m' _ names clash names' clash' same
  obtain ⟨overlap, rfl⟩ := clash?_iff_overlap.1 clash
  obtain ⟨overlap', rfl⟩ := clash?_iff_overlap.1 clash'
  obtain ⟨c, found, eq⟩ := List.mem_map.1 (reported m.id overlap)
  obtain ⟨c', found', eq'⟩ := List.mem_map.1 (reported m'.id overlap')
  have keyed : conflictKey c.rules = conflictKey c'.rules := by rw [eq, eq', same]
  have one : c = c' :=
    List.inj_on_of_nodup_map (nodup_conflictKeys rules (replay rules sample) ids) found found' keyed
  rw [← eq, ← eq', one]

/-- Whatever the order in which the messages are visited, every overlap has its key reported exactly
once, for a set of rules that overlaps on some message. The sets of all overlaps are reported, each
of them exactly once, if and only if no two of them have the same key, and so they are if no
archiving or starring rule has a bar in its name. -/
theorem overlaps_reported_iff (rules : List Rule) (sample : List Message) (ids : List MessageId)
    (visited : ids.Perm (hitIds rules (replay rules sample))) :
    let table := replay rules sample
    let reported := (conflictsOn rules table ids).map (·.rules)
    (∀ names ∈ reported, ∃ id, Overlap rules table id ∧ names = overlapping rules table id) ∧
      (∀ id, Overlap rules table id →
        (reported.map conflictKey).count (conflictKey (overlapping rules table id)) = 1) ∧
      ((∀ id, Overlap rules table id → reported.count (overlapping rules table id) = 1) ↔
        KeysTellApart rules sample) ∧
      ((∀ rule ∈ rules, rule.effect.archive = true ∨ rule.effect.star = true →
        '|' ∉ rule.name.toList) → KeysTellApart rules sample) := by
  intro table reported
  have listed {id : MessageId} (overlap : Overlap rules table id) : id ∈ ids :=
    visited.mem_iff.2 (mem_hitIds_of_clash? (clash?_of_overlap overlap))
  have sound : ∀ names ∈ reported,
      ∃ id, Overlap rules table id ∧ names = overlapping rules table id := by
    intro names listed
    obtain ⟨c, found, rfl⟩ := List.mem_map.1 listed
    obtain ⟨id, -, clash⟩ := exists_clash_of_mem_conflictsOn found
    exact ⟨id, clash?_iff_overlap.1 clash⟩
  have keyed : ∀ id, Overlap rules table id →
      (reported.map conflictKey).count (conflictKey (overlapping rules table id)) = 1 := by
    intro id overlap
    obtain ⟨c, found, same⟩ := exists_conflict_of_clash? (listed overlap) (clash?_of_overlap overlap)
    rw [← same, List.map_map]
    apply List.count_eq_one_of_mem (nodup_conflictKeys rules table ids)
    exact List.mem_map_of_mem found
  refine ⟨sound, keyed, ?_, keysTellApart_of_barless⟩
  constructor
  · intro once
    refine keysTellApart_of_reported ids fun id overlap => ?_
    exact List.count_pos_iff.1 (by rw [once id overlap]; exact Nat.one_pos)
  · intro keys id overlap
    apply List.count_eq_one_of_mem (nodup_conflictRules rules table ids)
    have found : (⟨overlapping rules table id, "archive and star rules overlap"⟩ : Conflict) ∈
        conflictsOn rules table ids :=
      (mem_conflictsOn_iff keys).2 ⟨rfl, id, listed overlap, clash?_of_overlap overlap⟩
    exact List.mem_map_of_mem found

theorem overlaps_reported_iff_barless :
    let rules := (pairedFilters "shelve" "keep" "file" "mark").rules .empty
    let sample := [newsLetter "m1" "alpha", newsLetter "m2" "beta"]
    let table := replay rules sample
    let reported := (conflictsOn rules table ["m2", "m1"]).map (·.rules)
    ["m2", "m1"].Perm (hitIds rules table) ∧
      (∀ rule ∈ rules, rule.effect.archive = true ∨ rule.effect.star = true →
        '|' ∉ rule.name.toList) ∧
      Overlap rules table "m2" ∧ overlapping rules table "m2" = ["file", "mark"] ∧
      ∀ id, Overlap rules table id → reported.count (overlapping rules table id) = 1 := by
  intro rules sample table reported
  have visited : ["m2", "m1"].Perm (hitIds rules table) := by decide +kernel
  have barless : ∀ rule ∈ rules, rule.effect.archive = true ∨ rule.effect.star = true →
      '|' ∉ rule.name.toList := by decide +kernel
  obtain ⟨-, -, complete, apart⟩ := overlaps_reported_iff rules sample ["m2", "m1"] visited
  exact ⟨visited, barless, by decide +kernel, by decide +kernel, complete.2 (apart barless)⟩

/-- Of two sets with the same key the one that is met first is reported, and the other is lost. -/
theorem overlap_lost_under_common_key :
    let rules := (pairedFilters "a|b" "c" "a" "b|c").rules .empty
    let table := replay rules [newsLetter "m1" "alpha", newsLetter "m2" "beta"]
    (Overlap rules table "m1" ∧ overlapping rules table "m1" = ["a|b", "c"]) ∧
      (Overlap rules table "m2" ∧ overlapping rules table "m2" = ["a", "b|c"]) ∧
      (conflicts rules table).map (·.rules) = [["a|b", "c"]] ∧
      ["m2", "m1"].Perm (hitIds rules table) ∧
      (conflictsOn rules table ["m2", "m1"]).map (·.rules) = [["a", "b|c"]] := by
  decide +kernel

end InboxAudit.Analysis
