import InboxAudit.Proofs.Analysis.FirstSeen
import InboxAudit.Proofs.Mail.LabelCatalog

/-!
# Missing labels

An identifier has the name of the last complete label of the export, and without such a label the
name that the mailbox has for it (`get?_labelNames`). A name of the second kind exists in the
mailbox, so only names of the export can be missing. The missing names are listed in the order in
which the filters first use them (`missingLabels_exact`).
-/

namespace InboxAudit.Filter
set_option autoImplicit false

open InboxAudit.Mail (LabelCatalog)

/-- The name of an identifier in the export: that of the last label with this identifier, labels
without identifier or name left aside. -/
def Export.labelName? (e : Export) (id : String) : Option String :=
  ((e.labels.filter fun label => label.id = id ∧ label.id ≠ "" ∧ label.name ≠ "").getLast?).map (·.name)

/-- The filter adds a label that the export calls by the name; the star is no label. -/
def adds (e : Export) (name : String) (f : Filter) : Bool :=
  f.action.addLabels.any fun id => id ≠ "STARRED" ∧ e.labelName? id = some name

theorem adds_iff {e : Export} {name : String} {f : Filter} :
    f.adds e name = true ↔
      ∃ id ∈ f.action.addLabels, id ≠ "STARRED" ∧ e.labelName? id = some name := by
  simp only [adds, List.any_eq_true, decide_eq_true_eq]

/-- Labels of the export take precedence over those of the mailbox. -/
theorem get?_labelNames (e : Export) (catalog : LabelCatalog) (id : String) :
    (labelNames e catalog).get? id = (e.labelName? id).or (catalog.nameOf id) := by
  rw [labelNames, Export.labelName?]
  generalize e.labels = labels
  induction labels using List.reverseRecOn with
  | nil => rfl
  | append_singleton labels label ih =>
    rw [List.foldl_append, List.foldl_cons, List.foldl_nil, List.filter_append, List.getLast?_append]
    by_cases blank : label.id = "" ∨ label.name = ""
    · have ignored : ¬ (label.id = id ∧ label.id ≠ "" ∧ label.name ≠ "") := by
        rintro ⟨-, hasId, hasName⟩
        exact blank.elim hasId hasName
      rw [if_pos blank, ih]
      simp [ignored]
    · obtain ⟨hasId, hasName⟩ := not_or.1 blank
      rw [if_neg blank, Table.get?_put, ih]
      by_cases same : label.id = id
      · subst same
        simp [hasId, hasName]
      · simp [same]

theorem ne_empty_of_labelName? {e : Export} {id name : String} (named : e.labelName? id = some name) :
    name ≠ "" := by
  obtain ⟨label, last, rfl⟩ := Option.map_eq_some_iff.1 named
  have complete := (List.mem_filter.1 (List.mem_of_getLast? last)).2
  exact (of_decide_eq_true complete).2.2

theorem Action.mem_labels {a : Action} {names : Table String} {name : String} :
    name ∈ (a.effect names).labels ↔
      (∃ id ∈ a.addLabels, id ≠ "STARRED" ∧ names.get? id = some name) ∧ name ≠ "" := by
  simp only [Action.effect, Names.mem_ofList, List.mem_filterMap, List.mem_filter, decide_eq_true_eq,
    and_assoc]

end InboxAudit.Filter

namespace InboxAudit.Analysis

open InboxAudit.Filter (Export labelNames)
open InboxAudit.Mail (LabelCatalog LabelId)

/-- The labels of a filter that the mailbox lacks, in ascending order. -/
def missingOf (e : Export) (catalog : LabelCatalog) (f : Filter) : List String :=
  (f.action.effect (labelNames e catalog)).labels.filter fun name => !catalog.containsName name

theorem missingLabels_eq_firstSeen (e : Export) (catalog : LabelCatalog) :
    missingLabels (e.rules catalog) catalog =
      firstSeen (e.filters.map (missingOf e catalog)).flatten := by
  rw [missingLabels, Export.rules, List.flatMap_map, List.filter_flatMap, ← List.flatMap_def]
  rfl

theorem ascending_missingOf (e : Export) (catalog : LabelCatalog) (f : Filter) :
    Ascending id (missingOf e catalog f) :=
  (Names.ascending_ofList _).filter _

/-- A label that the mailbox lacks has its name from the export. -/
theorem mem_missingOf {e : Export} {labels : List (LabelId × String)} {f : Filter} {name : String} :
    name ∈ missingOf e (.ofList labels) f ↔
      f.adds e name = true ∧ (LabelCatalog.ofList labels).containsName name = false := by
  rw [missingOf, List.mem_filter, Filter.Action.mem_labels, Filter.adds_iff, Bool.not_eq_true']
  refine and_congr_left fun absent => ?_
  simp only [Filter.get?_labelNames]
  constructor
  · rintro ⟨⟨id, mem, label, named⟩, -⟩
    refine ⟨id, mem, label, ?_⟩
    cases exported : e.labelName? id with
    | some other => rwa [exported, Option.some_or] at named
    | none =>
      rw [exported, Option.none_or] at named
      rw [LabelCatalog.containsName_of_nameOf named] at absent
      cases absent
  · rintro ⟨id, mem, label, named⟩
    exact ⟨⟨id, mem, label, by rw [named, Option.some_or]⟩, Filter.ne_empty_of_labelName? named⟩

theorem mem_missingLabels {e : Export} {labels : List (LabelId × String)} {name : String} :
    name ∈ missingLabels (e.rules (.ofList labels)) (.ofList labels) ↔
      (∃ f ∈ e.filters, f.adds e name = true) ∧
        (LabelCatalog.ofList labels).containsName name = false := by
  rw [missingLabels_eq_firstSeen, mem_firstSeen, ← List.flatMap_def, List.mem_flatMap]
  simp only [mem_missingOf]
  constructor
  · rintro ⟨f, mem, adds, absent⟩
    exact ⟨⟨f, mem, adds⟩, absent⟩
  · rintro ⟨⟨f, mem, adds⟩, absent⟩
    exact ⟨f, mem, adds, absent⟩

/-- For a missing name the first part is that of the first filter that adds it. -/
theorem findIdx_missingOf {e : Export} {labels : List (LabelId × String)} {name : String}
    (absent : (LabelCatalog.ofList labels).containsName name = false) :
    (e.filters.map (missingOf e (.ofList labels))).findIdx (name ∈ ·) =
      e.filters.findIdx (Filter.adds e name) := by
  rw [List.findIdx_map]
  congr 1
  funext f
  rw [Function.comp_apply, Bool.eq_iff_iff, decide_eq_true_iff, mem_missingOf]
  exact and_iff_left absent

/-- The missing labels are the names under which filters add labels of the export and which do not
exist in the mailbox, each once. A name that an identifier has only in the mailbox is never
missing. The names stand in the order of the filters that add them first, in ascending order where
it is the same filter. -/
theorem missingLabels_exact (e : Export) (labels : List (LabelId × String)) :
    let catalog := LabelCatalog.ofList labels
    let missing := missingLabels (e.rules catalog) catalog
    missing.Nodup ∧
      (∀ name, name ∈ missing ↔
        (∃ f ∈ e.filters, ∃ id ∈ f.action.addLabels, id ≠ "STARRED" ∧ e.labelName? id = some name) ∧
          catalog.containsName name = false) ∧
      (∀ id name, e.labelName? id = none → (labelNames e catalog).get? id = some name →
        name ∉ missing) ∧
      missing.Pairwise fun a b =>
        e.filters.findIdx (Filter.adds e a) < e.filters.findIdx (Filter.adds e b) ∨
          e.filters.findIdx (Filter.adds e a) = e.filters.findIdx (Filter.adds e b) ∧ a < b := by
  intro catalog missing
  have listed : missing = firstSeen (e.filters.map (missingOf e catalog)).flatten :=
    missingLabels_eq_firstSeen e catalog
  have members : ∀ name, name ∈ missing ↔
      (∃ f ∈ e.filters, ∃ id ∈ f.action.addLabels, id ≠ "STARRED" ∧ e.labelName? id = some name) ∧
        catalog.containsName name = false := by
    intro name
    simp only [← Filter.adds_iff]
    exact mem_missingLabels
  have live : ∀ id name, e.labelName? id = none → (labelNames e catalog).get? id = some name →
      name ∉ missing := by
    intro id name unexported resolved mem
    rw [Filter.get?_labelNames, unexported, Option.none_or] at resolved
    have present : catalog.containsName name = true := LabelCatalog.containsName_of_nameOf resolved
    rw [((members name).1 mem).2] at present
    cases present
  have ordered : missing.Pairwise (StandsBefore (e.filters.map (missingOf e catalog))) := by
    rw [listed]
    apply pairwise_firstSeen_flatten
    intro part mem
    obtain ⟨f, -, rfl⟩ := List.mem_map.1 mem
    exact ascending_missingOf e catalog f
  refine ⟨listed ▸ nodup_firstSeen _, members, live, ?_⟩
  apply ordered.imp_of_mem
  intro a b memA memB before
  rwa [StandsBefore, findIdx_missingOf ((members a).1 memA).2,
    findIdx_missingOf ((members b).1 memB).2] at before

/-- The last complete label of the export counts, a name that a label of the mailbox had before
exists, and a label that only the mailbox knows is not missing. -/
theorem missingLabels_exact_relabelled :
    let labels : List (LabelId × String) := [("L2", "Live"), ("L3", "Old"), ("L3", "New")]
    let catalog := LabelCatalog.ofList labels
    let e : Export :=
      ⟨[⟨"", "first", .empty, ⟨["L3", "STARRED", "L2", "L1"], [], ""⟩⟩,
        ⟨"", "second", .empty, ⟨["L5", "L4", "L1"], [], ""⟩⟩],
       [⟨"L1", "Draft", ""⟩, ⟨"L1", "Work", ""⟩, ⟨"L1", "", ""⟩, ⟨"L3", "Old", ""⟩, ⟨"L4", "Beta", ""⟩,
        ⟨"L5", "Alpha", ""⟩, ⟨"STARRED", "Star", ""⟩]⟩
    let missing := missingLabels (e.rules catalog) catalog
    missing = ["Work", "Alpha", "Beta"] ∧ e.labelName? "L2" = none ∧
      (labelNames e catalog).get? "L2" = some "Live" ∧ "Live" ∉ missing := by
  intro labels catalog e missing
  have unexported : e.labelName? "L2" = none := by decide +kernel
  have resolved : (labelNames e catalog).get? "L2" = some "Live" := by decide +kernel
  obtain ⟨-, -, live, -⟩ := missingLabels_exact e labels
  exact ⟨by decide +kernel, unexported, resolved, live "L2" "Live" unexported resolved⟩

end InboxAudit.Analysis
