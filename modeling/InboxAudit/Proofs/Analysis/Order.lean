import InboxAudit.Proofs.Analysis.Conflicts
import InboxAudit.Proofs.Analysis.DeadRules

/-!
# Findings and order

What rules hit depends on which rules and messages there are. So another order of both, and of the
messages as they are visited, leaves the findings as they are up to the order of the dead rules and of
the missing labels (`analyzeOn_perm`), as long as the joined names tell the clashing sets of rules apart.
-/

namespace InboxAudit.Analysis
set_option autoImplicit false

open InboxAudit.Filter (Rule Export)
open InboxAudit.Mail (LabelCatalog Message MessageId)

/-- The same findings, the dead rules and the missing labels perhaps in another order. -/
structure Findings.SameUpToOrder (f g : Findings) : Prop where
  deadRules : f.deadRules.Perm g.deadRules
  missingLabels : f.missingLabels.Perm g.missingLabels
  conflicts : f.conflicts = g.conflicts

/-- Different sets of rules that clash on a message of the sample have different keys. -/
def KeysTellApart (rules : List Rule) (sample : List Message) : Prop :=
  ∀ m ∈ sample, ∀ m' ∈ sample, ∀ names ∈ clash? rules (replay rules sample) m.id,
    ∀ names' ∈ clash? rules (replay rules sample) m'.id,
      conflictKey names = conflictKey names' → names = names'

instance (rules : List Rule) (sample : List Message) : Decidable (KeysTellApart rules sample) :=
  inferInstanceAs (Decidable (∀ m ∈ sample, ∀ m' ∈ sample, ∀ names ∈ _, ∀ names' ∈ _, _ → _))

section Conflicts

variable {rules : List Rule} {sample : List Message} {id : MessageId} {names : List String}

theorem exists_message_of_clash? (h : clash? rules (replay rules sample) id = some names) :
    ∃ m ∈ sample, m.id = id := by
  obtain ⟨⟨a, -, hit, -⟩, -⟩ := clash?_eq_some_iff.1 h
  obtain ⟨-, -, -, m, mem, eq, -⟩ := hits_replay_iff.1 hit
  exact ⟨m, mem, eq⟩

/-- If the keys tell the clashing sets apart, every clash is reported. -/
theorem mem_conflictsOn_iff (keys : KeysTellApart rules sample) {ids : List MessageId} {c : Conflict} :
    c ∈ conflictsOn rules (replay rules sample) ids ↔
      c.description = "archive and star rules overlap" ∧
        ∃ id ∈ ids, clash? rules (replay rules sample) id = some c.rules := by
  constructor
  · exact fun h => ⟨(mem_conflictsOn.1 h).1, exists_clash_of_mem_conflictsOn h⟩
  · rintro ⟨described, id, mem, clash⟩
    obtain ⟨first, found, keyed⟩ := exists_conflict_of_clash? mem clash
    obtain ⟨id', -, clash'⟩ := exists_clash_of_mem_conflictsOn found
    obtain ⟨m, memM, rfl⟩ := exists_message_of_clash? clash
    obtain ⟨m', memM', rfl⟩ := exists_message_of_clash? clash'
    have same : first.rules = c.rules :=
      keys m' memM' m memM first.rules clash' c.rules clash keyed
    obtain ⟨described', -⟩ := mem_conflictsOn.1 found
    have eq : first = c := by
      cases first
      cases c
      simp_all
    exact eq ▸ found

/-- So it is in every order in which the messages that are hit are visited. -/
theorem mem_conflictsOn_iff_of_visited (keys : KeysTellApart rules sample) {ids : List MessageId}
    (visited : ids.Perm (hitIds rules (replay rules sample))) {c : Conflict} :
    c ∈ conflictsOn rules (replay rules sample) ids ↔
      c.description = "archive and star rules overlap" ∧
        ∃ id, clash? rules (replay rules sample) id = some c.rules := by
  rw [mem_conflictsOn_iff keys]
  refine and_congr_right fun _ => exists_congr fun id => and_iff_right_of_imp fun clash => ?_
  exact visited.mem_iff.2 (mem_hitIds_of_clash? clash)

end Conflicts

section Permutations

variable {rules rules' : List Rule} {sample sample' : List Message}
  (hr : rules'.Perm rules) (hs : sample'.Perm sample)
include hr hs

theorem hits_perm : hits (replay rules' sample') = hits (replay rules sample) := by
  funext id rule
  rw [Bool.eq_iff_iff, hits_replay_iff, hits_replay_iff]
  simp only [CaughtUnder, hr.mem_iff, hs.mem_iff]

theorem clash?_perm : clash? rules' (replay rules' sample') = clash? rules (replay rules sample) := by
  funext id
  have set : Names.ofList ((rules'.filter (partakes (replay rules' sample') id)).map (·.name)) =
      Names.ofList ((rules.filter (partakes (replay rules sample) id)).map (·.name)) := by
    refine Names.ofList_congr fun name => ?_
    simp only [List.mem_map, List.mem_filter, partakes_iff, hits_perm hr hs, hr.mem_iff]
  ext names
  rw [clash?_eq_some_iff, clash?_eq_some_iff, set]
  simp only [hits_perm hr hs, hr.mem_iff]

theorem keysTellApart_perm (keys : KeysTellApart rules sample) : KeysTellApart rules' sample' := by
  intro m mem m' mem'
  rw [clash?_perm hr hs]
  exact keys m (hs.mem_iff.1 mem) m' (hs.mem_iff.1 mem')

theorem conflictsOn_perm (keys : KeysTellApart rules sample) {ids ids' : List MessageId}
    (visited : ids.Perm (hitIds rules (replay rules sample)))
    (visited' : ids'.Perm (hitIds rules' (replay rules' sample'))) :
    conflictsOn rules' (replay rules' sample') ids' = conflictsOn rules (replay rules sample) ids := by
  apply (ascending_conflictsOn _ _ _).eq_of_mem_iff (ascending_conflictsOn _ _ _)
  intro c
  rw [mem_conflictsOn_iff_of_visited keys visited,
    mem_conflictsOn_iff_of_visited (keysTellApart_perm hr hs keys) visited', clash?_perm hr hs]

theorem deadRules_perm :
    (deadRules rules' (replay rules' sample')).Perm (deadRules rules (replay rules sample)) := by
  have idle : isIdleByName rules' sample' = isIdleByName rules sample := by
    funext rule
    rw [Bool.eq_iff_iff, isIdleByName_iff, isIdleByName_iff]
    simp only [hr.mem_iff, hs.any_eq]
  rw [deadRules_replay, deadRules_replay, idle]
  exact (hr.filter _).map _

omit hs in
theorem missingLabels_perm (catalog : LabelCatalog) :
    (missingLabels rules' catalog).Perm (missingLabels rules catalog) := by
  refine firstSeen_perm fun name => ?_
  simp only [List.mem_filter, List.mem_flatMap, hr.mem_iff]

theorem analyzeOn_perm (keys : KeysTellApart rules sample) (catalog : LabelCatalog) {ids ids' : List MessageId}
    (visited : ids.Perm (hitIds rules (replay rules sample)))
    (visited' : ids'.Perm (hitIds rules' (replay rules' sample'))) :
    (analyzeOn rules' (replay rules' sample') catalog ids').SameUpToOrder
      (analyzeOn rules (replay rules sample) catalog ids) where
  deadRules := deadRules_perm hr hs
  missingLabels := missingLabels_perm hr catalog
  conflicts := conflictsOn_perm hr hs keys visited visited'

end Permutations

end InboxAudit.Analysis
