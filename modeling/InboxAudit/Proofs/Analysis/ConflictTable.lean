import InboxAudit.Proofs.Analysis.ConflictKeys

/-!
# The table of conflicts

The keys of the conflicts are the keys of all overlaps (`mem_conflictKeys`), in ascending order and each
once, for any order in which the messages are visited (`conflicts_tabulate_overlaps`). Only which set of
rules is shown for a key can depend on that order. Nothing is asked of the replay here: it may have come from
other rules.
-/

namespace InboxAudit.Analysis
set_option autoImplicit false

open InboxAudit.Filter (Rule)
open InboxAudit.Mail (Message MessageId)

/-- The keys of some conflicts in their order. -/
def conflictKeys (found : List Conflict) : List String := found.map fun c => conflictKey c.rules

section Keys

variable {rules : List Rule} {table : Replay} {ids : List MessageId}

theorem overlapping_ne_nil {id : MessageId} (overlap : Overlap rules table id) :
    overlapping rules table id ≠ [] := by
  obtain ⟨a, mem, hit, archives⟩ := overlap.1
  have part : partakes table id a = true := partakes_iff.2 ⟨hit, .inl archives⟩
  exact List.ne_nil_of_mem ((mem_of_clash? (clash?_of_overlap overlap)).2 ⟨a, mem, part, rfl⟩)

theorem exists_overlap_of_mem {c : Conflict} (found : c ∈ conflictsOn rules table ids) :
    ∃ id, Overlap rules table id ∧ c.rules = overlapping rules table id := by
  obtain ⟨id, -, clash⟩ := exists_clash_of_mem_conflictsOn found
  exact ⟨id, clash?_iff_overlap.1 clash⟩

theorem ascending_conflictKeys : Ascending id (conflictKeys (conflictsOn rules table ids)) :=
  List.pairwise_map.2 (ascending_conflictsOn rules table ids)

/-- The keys are those of the overlaps, whichever set of rules is kept for each. -/
theorem mem_conflictKeys (visited : ids.Perm (hitIds rules table)) {key : String} :
    key ∈ conflictKeys (conflictsOn rules table ids) ↔
      ∃ id, Overlap rules table id ∧ key = conflictKey (overlapping rules table id) := by
  rw [conflictKeys, List.mem_map]
  constructor
  · rintro ⟨c, found, rfl⟩
    obtain ⟨id, overlap, names⟩ := exists_overlap_of_mem found
    exact ⟨id, overlap, by rw [names]⟩
  · rintro ⟨id, overlap, rfl⟩
    have clash := clash?_of_overlap overlap
    have listed : id ∈ ids := visited.mem_iff.2 (mem_hitIds_of_clash? clash)
    exact exists_conflict_of_clash? listed clash

end Keys

/-- Whatever the order in which the messages are visited, the conflicts stand in strictly ascending order
of their keys, each is a set of names in strictly ascending order with at least one member, and the keys are
exactly those of the overlaps. So all orders give the same keys. -/
theorem conflicts_tabulate_overlaps (rules : List Rule) (table : Replay) (ids : List MessageId)
    (visited : ids.Perm (hitIds rules table)) :
    let found := conflictsOn rules table ids
    Ascending (fun c => conflictKey c.rules) found ∧
      (∀ c ∈ found, Ascending id c.rules ∧ c.rules ≠ []) ∧
      (∀ key, key ∈ conflictKeys found ↔
        ∃ id, Overlap rules table id ∧ key = conflictKey (overlapping rules table id)) ∧
      conflictKeys found = conflictKeys (conflicts rules table) := by
  intro found
  refine ⟨ascending_conflictsOn rules table ids, fun c mem => ?_, fun key => mem_conflictKeys visited, ?_⟩
  · obtain ⟨id, overlap, names⟩ := exists_overlap_of_mem mem
    rw [names]
    exact ⟨Names.ascending_ofList _, overlapping_ne_nil overlap⟩
  · apply ascending_conflictKeys.eq_of_mem_iff ascending_conflictKeys
    intro key
    rw [mem_conflictKeys visited, mem_conflictKeys (List.Perm.refl _)]

/-- A rule that archives and stars is in conflict by itself. The identifier `m1` stands twice in its
entry. -/
theorem conflicts_tabulate_overlaps_alone :
    let rules := (⟨[newsFilter "shift" "alpha" ⟨["STARRED"], ["INBOX"], ""⟩,
      newsFilter "keep" "beta" ⟨["STARRED"], [], ""⟩, newsFilter "idle" "alpha" .empty], []⟩ :
        Filter.Export).rules .empty
    let sample := [newsLetter "m1" "alpha", newsLetter "m2" "alpha beta", newsLetter "m1" "alpha"]
    let table := replay rules sample
    let found := conflictsOn rules table ["m2", "m1"]
    ["m2", "m1"].Perm (hitIds rules table) ∧
      found.map (·.rules) = [["keep", "shift"], ["shift"]] ∧
      (∀ c ∈ found, Ascending id c.rules ∧ c.rules ≠ []) ∧
      (∀ key, key ∈ conflictKeys found ↔
        ∃ id, Overlap rules table id ∧ key = conflictKey (overlapping rules table id)) ∧
      conflictKeys found = conflictKeys (conflicts rules table) := by
  intro rules sample table found
  have visited : ["m2", "m1"].Perm (hitIds rules table) := by decide +kernel
  have exact := conflicts_tabulate_overlaps rules table ["m2", "m1"] visited
  exact ⟨visited, by decide +kernel, exact.2⟩

end InboxAudit.Analysis
