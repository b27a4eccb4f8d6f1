import InboxAudit.Proofs.Analysis.FirstSeen
import InboxAudit.Proofs.Analysis.Replay
import InboxAudit.Proofs.Collections.Ascending
import Mathlib.Data.List.Nodup

/-!
# Conflicts

A message identifier is in conflict if an archiving and a starring rule hit it, and the conflict is
the set of all archiving or starring rules that do (`clash?_eq_some_iff`). The list of conflicts
keeps the first set of every key (`mem_conflictsOn`). Whichever set that is, a reported conflict is never
without a cause, but the cause is found under the names of the rules and the identifier of a message
(`conflicts_caught`).
-/

namespace InboxAudit.Analysis
set_option autoImplicit false

open InboxAudit.Filter (Rule Export)
open InboxAudit.Mail (LabelCatalog Message MessageId)

variable {rules : List Rule} {table : Replay} {sample : List Message} {id : MessageId}

theorem mem_hitIds : id ∈ hitIds rules table ↔ ∃ rule ∈ rules, hits table id rule = true := by
  rw [hitIds, mem_firstSeen, List.mem_flatMap]
  simp only [hits, List.contains_iff_mem]

/-- The rule hits the message, and archives or stars. -/
def partakes (table : Replay) (id : MessageId) (rule : Rule) : Bool :=
  hits table id rule && (rule.effect.archive || rule.effect.star)

theorem partakes_iff {rule : Rule} : partakes table id rule = true ↔
    hits table id rule = true ∧ (rule.effect.archive = true ∨ rule.effect.star = true) := by
  rw [partakes, Bool.and_eq_true, Bool.or_eq_true]

theorem isEmpty_hitting_iff {p : Rule → Bool} :
    ((rules.filter (hits table id)).filter p).isEmpty = false ↔
      ∃ rule ∈ rules, hits table id rule = true ∧ p rule = true := by
  rw [List.isEmpty_eq_false_iff_exists_mem]
  simp only [List.mem_filter, and_assoc]

/-- A clash needs an archiving and a starring rule, and names all rules that partake. -/
theorem clash?_eq_some_iff {names : List String} :
    clash? rules table id = some names ↔
      (∃ a ∈ rules, hits table id a = true ∧ a.effect.archive = true) ∧
      (∃ b ∈ rules, hits table id b = true ∧ b.effect.star = true) ∧
      names = Names.ofList ((rules.filter (partakes table id)).map (·.name)) := by
  have same : Names.ofList
      (((rules.filter (hits table id)).filter (·.effect.archive) ++
        (rules.filter (hits table id)).filter (·.effect.star)).map (·.name)) =
      Names.ofList ((rules.filter (partakes table id)).map (·.name)) := by
    refine Names.ofList_congr fun name => ?_
    simp only [List.map_append, List.mem_append, List.mem_map, List.mem_filter, partakes_iff]
    constructor
    · rintro (⟨rule, ⟨⟨mem, hit⟩, does⟩, eq⟩ | ⟨rule, ⟨⟨mem, hit⟩, does⟩, eq⟩)
      · exact ⟨rule, ⟨mem, hit, .inl does⟩, eq⟩
      · exact ⟨rule, ⟨mem, hit, .inr does⟩, eq⟩
    · rintro ⟨rule, ⟨mem, hit, does | does⟩, eq⟩
      · exact .inl ⟨rule, ⟨⟨mem, hit⟩, does⟩, eq⟩
      · exact .inr ⟨rule, ⟨⟨mem, hit⟩, does⟩, eq⟩
  rw [← isEmpty_hitting_iff, ← isEmpty_hitting_iff, clash?, same]
  cases ((rules.filter (hits table id)).filter (·.effect.archive)).isEmpty <;>
    cases ((rules.filter (hits table id)).filter (·.effect.star)).isEmpty <;>
    simp [eq_comm]

theorem mem_of_clash? {names : List String} (h : clash? rules table id = some names) {name : String} :
    name ∈ names ↔ ∃ rule ∈ rules, partakes table id rule = true ∧ rule.name = name := by
  obtain ⟨-, -, rfl⟩ := clash?_eq_some_iff.1 h
  simp only [Names.mem_ofList, List.mem_map, List.mem_filter, and_assoc]

/-- The first set of every key among the clashes on some messages. -/
def conflictSets (rules : List Rule) (table : Replay) (ids : List MessageId) :
    SortedTable (List String) :=
  (ids.filterMap (clash? rules table)).foldl
    (fun sets names => SortedTable.putNew sets (conflictKey names) names) []

theorem conflictsOn_eq_map (rules : List Rule) (table : Replay) (ids : List MessageId) :
    conflictsOn rules table ids = (conflictSets rules table ids).map fun entry =>
      ⟨entry.2, "archive and star rules overlap"⟩ := rfl

variable {ids : List MessageId}

theorem ascending_nil : Ascending Prod.fst ([] : SortedTable (List String)) := List.Pairwise.nil

theorem ascending_conflictSets : Ascending Prod.fst (conflictSets rules table ids) :=
  SortedTable.ascending_foldl_putNew conflictKey _ ascending_nil

theorem mem_conflictSets {key : String} {names : List String} :
    (key, names) ∈ conflictSets rules table ids ↔
      (ids.filterMap (clash? rules table)).find? (fun names => conflictKey names = key) = some names := by
  rw [SortedTable.mem_iff_get? ascending_conflictSets, conflictSets,
    SortedTable.get?_foldl_putNew conflictKey _ ascending_nil, Table.get?_nil, Option.none_or]

theorem conflictKey_of_mem_conflictSets {entry : String × List String}
    (h : entry ∈ conflictSets rules table ids) : conflictKey entry.2 = entry.1 := by
  simpa using List.find?_some (mem_conflictSets.1 h)

/-- The list of conflicts keeps the first set of every key. -/
theorem mem_conflictsOn {c : Conflict} :
    c ∈ conflictsOn rules table ids ↔ c.description = "archive and star rules overlap" ∧
      (ids.filterMap (clash? rules table)).find? (fun names => conflictKey names = conflictKey c.rules) =
        some c.rules := by
  rw [conflictsOn_eq_map, List.mem_map]
  constructor
  · rintro ⟨⟨key, names⟩, mem, rfl⟩
    have keyed : conflictKey names = key := conflictKey_of_mem_conflictSets mem
    subst keyed
    exact ⟨rfl, mem_conflictSets.1 mem⟩
  · rintro ⟨described, first⟩
    exact ⟨(conflictKey c.rules, c.rules), mem_conflictSets.2 first, described ▸ rfl⟩

theorem ascending_conflictsOn (rules : List Rule) (table : Replay) (ids : List MessageId) :
    Ascending (fun c : Conflict => conflictKey c.rules) (conflictsOn rules table ids) := by
  rw [conflictsOn_eq_map, Ascending, List.pairwise_map]
  apply ascending_conflictSets.imp_of_mem
  intro first second memFirst memSecond lt
  rwa [conflictKey_of_mem_conflictSets memFirst, conflictKey_of_mem_conflictSets memSecond]

theorem exists_clash_of_mem_conflictsOn {c : Conflict} (h : c ∈ conflictsOn rules table ids) :
    ∃ id ∈ ids, clash? rules table id = some c.rules := by
  obtain ⟨-, first⟩ := mem_conflictsOn.1 h
  exact List.mem_filterMap.1 (List.mem_of_find?_eq_some first)

/-- A clash on one of the messages is reported, or another one with the same key is. -/
theorem exists_conflict_of_clash? {names : List String} (mem : id ∈ ids)
    (clash : clash? rules table id = some names) :
    ∃ c ∈ conflictsOn rules table ids, conflictKey c.rules = conflictKey names := by
  have listed : names ∈ ids.filterMap (clash? rules table) := List.mem_filterMap.2 ⟨id, mem, clash⟩
  have isSome : ((ids.filterMap (clash? rules table)).find? fun other =>
      conflictKey other = conflictKey names).isSome :=
    List.find?_isSome.2 ⟨names, listed, decide_eq_true rfl⟩
  obtain ⟨first, found⟩ := Option.isSome_iff_exists.1 isSome
  have keyed : conflictKey first = conflictKey names := by simpa using List.find?_some found
  exact ⟨⟨first, "archive and star rules overlap"⟩, mem_conflictsOn.2 ⟨rfl, keyed ▸ found⟩, keyed⟩

theorem mem_hitIds_of_clash? {names : List String} (clash : clash? rules table id = some names) :
    id ∈ hitIds rules table := by
  obtain ⟨⟨a, mem, hit, -⟩, -⟩ := clash?_eq_some_iff.1 clash
  exact mem_hitIds.2 ⟨a, mem, hit⟩

/-- An archiving and a starring rule catch one and the same message, and both are named. -/
def Conflict.OnOneMessage (c : Conflict) (rules : List Rule) (sample : List Message) : Prop :=
  ∃ m ∈ sample, ∃ a ∈ rules, ∃ b ∈ rules,
    (a.catches m = true ∧ a.effect.archive = true) ∧ (b.catches m = true ∧ b.effect.star = true) ∧
      a.name ∈ c.rules ∧ b.name ∈ c.rules

instance (c : Conflict) (rules : List Rule) (sample : List Message) :
    Decidable (c.OnOneMessage rules sample) :=
  inferInstanceAs (Decidable (∃ m ∈ sample, ∃ a ∈ rules, ∃ b ∈ rules, _))

/-- An archiving and a starring rule are named, and rules of their names catch messages with one
and the same identifier. -/
def Conflict.OnOneIdentifier (c : Conflict) (rules : List Rule) (sample : List Message) : Prop :=
  ∃ id, ∃ a ∈ rules, ∃ b ∈ rules, a.effect.archive = true ∧ b.effect.star = true ∧
    a.name ∈ c.rules ∧ b.name ∈ c.rules ∧
      CaughtUnder rules sample a.name id ∧ CaughtUnder rules sample b.name id

theorem onOneIdentifier_of_mem {c : Conflict} (h : c ∈ conflictsOn rules (replay rules sample) ids) :
    c.OnOneIdentifier rules sample := by
  obtain ⟨id, -, clash⟩ := exists_clash_of_mem_conflictsOn h
  obtain ⟨⟨a, memA, hitA, archives⟩, ⟨b, memB, hitB, stars⟩, -⟩ := clash?_eq_some_iff.1 clash
  have namedA : a.name ∈ c.rules :=
    (mem_of_clash? clash).2 ⟨a, memA, partakes_iff.2 ⟨hitA, .inl archives⟩, rfl⟩
  have namedB : b.name ∈ c.rules :=
    (mem_of_clash? clash).2 ⟨b, memB, partakes_iff.2 ⟨hitB, .inr stars⟩, rfl⟩
  exact ⟨id, a, memA, b, memB, archives, stars, namedA, namedB, hits_replay_iff.1 hitA,
    hits_replay_iff.1 hitB⟩

/-- With a name for every rule and an identifier for every reading of a message the two agree. -/
theorem Conflict.OnOneIdentifier.onOneMessage {c : Conflict} (h : c.OnOneIdentifier rules sample)
    (names : (rules.map (·.name)).Nodup) (readings : HeadersByIdentifier sample) : c.OnOneMessage rules sample := by
  obtain ⟨id, a, memA, b, memB, archives, stars, namedA, namedB, caughtA, caughtB⟩ := h
  obtain ⟨a', memA', sameA, m, memM, idM, catchesA⟩ := caughtA
  obtain ⟨b', memB', sameB, m', memM', idM', catchesB⟩ := caughtB
  have eqA : a' = a := List.inj_on_of_nodup_map names memA' memA sameA
  have eqB : b' = b := List.inj_on_of_nodup_map names memB' memB sameB
  subst eqA eqB
  -- The starring rule caught a message of the same identifier, which reads as the one that the archiving rule caught.
  rw [Rule.catches_congr (readings m' memM' m memM (idM'.trans idM.symm))] at catchesB
  exact ⟨m, memM, a', memA', b', memB', ⟨catchesA, archives⟩, ⟨catchesB, stars⟩, namedA, namedB⟩

/-- Every reported conflict has a cause, in whichever order the messages are visited: an archiving and a starring
rule, both named in it, and under the names of both something is caught that has one and the same identifier. If no
two rules share a name and messages that share an identifier read the same, the two rules themselves catch one
message. -/
theorem conflicts_caught (e : Export) (catalog : LabelCatalog) (sample : List Message) (ids : List MessageId)
    (c : Conflict) (found : c ∈ conflictsOn (e.rules catalog) (replay (e.rules catalog) sample) ids) :
    c.OnOneIdentifier (e.rules catalog) sample ∧
      (((e.rules catalog).map (·.name)).Nodup → HeadersByIdentifier sample →
        c.OnOneMessage (e.rules catalog) sample) := by
  have onOneIdentifier := onOneIdentifier_of_mem found
  exact ⟨onOneIdentifier, onOneIdentifier.onOneMessage⟩

/-- Two filters that archive and star the letters on `alpha`, and two for those on `beta`. -/
def pairedFilters (archiver starrer archiver' starrer' : String) : Export :=
  ⟨[newsFilter archiver "alpha" ⟨[], ["INBOX"], ""⟩,
    newsFilter starrer "alpha" ⟨["STARRED"], [], ""⟩,
    newsFilter archiver' "beta" ⟨[], ["INBOX"], ""⟩,
    newsFilter starrer' "beta" ⟨["STARRED"], [], ""⟩], []⟩

/-- Of two conflicts with one key the first one visited is reported. Of the two messages that share an identifier one
has its headers the other way round. -/
theorem conflicts_caught_beta :
    let rules := (pairedFilters "a|b" "c" "a" "b|c").rules .empty
    let sample := [newsLetter "m1" "alpha", newsLetter "m2" "beta",
      ⟨"m1", [], [("Subject", "alpha"), ("From", "news")]⟩]
    let table := replay rules sample
    let c : Conflict := ⟨["a", "b|c"], "archive and star rules overlap"⟩
    ["m2", "m1"].Perm (hitIds rules table) ∧ c ∈ conflictsOn rules table ["m2", "m1"] ∧
      c ∉ conflicts rules table ∧ (rules.map (·.name)).Nodup ∧ HeadersByIdentifier sample ∧
      c.OnOneMessage rules sample := by
  intro rules sample table c
  have visited : ["m2", "m1"].Perm (hitIds rules table) := by decide +kernel
  have found : c ∈ conflictsOn rules table ["m2", "m1"] := by decide +kernel
  have names : (rules.map (·.name)).Nodup := by decide +kernel
  have readings : HeadersByIdentifier sample :=
    headersByIdentifier_of_perm (by decide +kernel) (by decide +kernel)
  have caught := conflicts_caught (pairedFilters "a|b" "c" "a" "b|c") .empty sample ["m2", "m1"] c found
  exact ⟨visited, found, by decide +kernel, names, readings, caught.2 names readings⟩

/-- Two rules of one name, and two messages of one identifier, make a conflict that no message
causes. -/
theorem conflicts_without_common_message :
    (let rules := (newsFilters "" "").rules .empty
      let sample := [newsLetter "m1" "alpha", newsLetter "m2" "beta"]
      ∃ c ∈ conflicts rules (replay rules sample), ¬ c.OnOneMessage rules sample) ∧
    (let rules := (newsFilters "shelve" "keep").rules .empty
      let sample := [newsLetter "m1" "alpha", newsLetter "m1" "beta"]
      ∃ c ∈ conflicts rules (replay rules sample), ¬ c.OnOneMessage rules sample) := by
  decide +kernel

end InboxAudit.Analysis
