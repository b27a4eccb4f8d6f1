import InboxAudit.Analysis.Ranking
import InboxAudit.Proofs.Collections.Ascending
import Mathlib.Algebra.GroupWithZero.Nat
import Mathlib.Data.List.Count
import Mathlib.Data.List.Nodup

/-!
# What the coverage counts

A table of counts shows how often each key was counted (`SortedTable.get?_foldl_count`), and the
coverage counts the labels of the sample under their names. So a message counts as often as it
has labels of a name, and the number under the name is that of the messages exactly if none of them
has two such labels (`coverage_counts_labels`).
-/

namespace InboxAudit
set_option autoImplicit false

namespace SortedTable

open Table (get?)

theorem get?_count {table : SortedTable Nat} (h : Ascending Prod.fst table) (key other : String) :
    get? (count table key) other =
      if key = other then some ((get? table key).getD 0 + 1) else get? table other :=
  get?_alter key other _ h

theorem ascending_foldl_count (keys : List String) {table : SortedTable Nat}
    (h : Ascending Prod.fst table) : Ascending Prod.fst (keys.foldl count table) := by
  induction keys generalizing table with
  | nil => exact h
  | cons key rest ih => exact ih (ascending_alter _ _ h)

/-- A key that is counted shows how often, on top of what was there; any other key is left alone. -/
theorem get?_foldl_count (keys : List String) {table : SortedTable Nat}
    (h : Ascending Prod.fst table) (k : String) :
    get? (keys.foldl count table) k =
      if k ∈ keys then some ((get? table k).getD 0 + keys.count k) else get? table k := by
  induction keys generalizing table with
  | nil => simp
  | cons key rest ih =>
    have step : Ascending Prod.fst (count table key) := ascending_alter _ _ h
    rw [List.foldl_cons, ih step, get?_count h]
    by_cases same : key = k
    · subst same
      by_cases later : key ∈ rest
      · simp only [if_pos later, List.mem_cons_self, if_true, Option.getD_some, List.count_cons_self,
          Option.some.injEq]
        omega
      · simp [later, List.count_eq_zero_of_not_mem later]
    · have other : k ≠ key := Ne.symm same
      simp [same, other]

end SortedTable

/-- Of numbers that are positive exactly where a test holds, the sum is no less than the number of tests that hold,
and equal to it exactly if no number is greater than one. -/
theorem countP_le_sum_map {α : Type} {p : α → Bool} {f : α → Nat} (positive : ∀ a, p a = true ↔ 0 < f a)
    (l : List α) : l.countP p ≤ (l.map f).sum ∧ ((l.map f).sum = l.countP p ↔ ∀ a ∈ l, f a ≤ 1) := by
  induction l with
  | nil => simp
  | cons a rest ih =>
    obtain ⟨le, iff⟩ := ih
    rw [List.map_cons, List.sum_cons, List.countP_cons, List.forall_mem_cons, ← iff]
    by_cases holds : p a = true
    · have pos : 0 < f a := (positive a).1 holds
      rw [if_pos holds]
      omega
    · have zero : f a = 0 := Nat.eq_zero_of_not_pos fun pos => holds ((positive a).2 pos)
      rw [if_neg holds, zero]
      omega

namespace Analysis

open Mail (LabelCatalog LabelId Message)

/-- The message has a label of the name. -/
def carries (catalog : LabelCatalog) (name : String) (m : Message) : Bool :=
  m.labels.any fun id => catalog.nameOf id == some name

/-- How many labels of the name the message has. -/
def labelCount (catalog : LabelCatalog) (name : String) (m : Message) : Nat :=
  m.labels.countP fun id => catalog.nameOf id == some name

variable {catalog : LabelCatalog} {name : String}

theorem carries_iff {m : Message} : carries catalog name m = true ↔ 0 < labelCount catalog name m := by
  rw [carries, labelCount, List.any_eq_true, List.countP_pos_iff]

/-- Labels that differ, no two of them of one name, count once at most. -/
theorem labelCount_le_one {m : Message} (distinct : m.labels.Nodup)
    (alone : ∀ id id', catalog.nameOf id = some name → catalog.nameOf id' = some name → id = id') :
    labelCount catalog name m ≤ 1 := by
  rcases Nat.eq_zero_or_pos (labelCount catalog name m) with none | pos
  · omega
  · obtain ⟨id, -, named⟩ := List.countP_pos_iff.1 pos
    have single : labelCount catalog name m ≤ m.labels.count id := by
      apply List.countP_mono_left
      intro id' _ named'
      exact beq_iff_eq.2 (alone id' id (beq_iff_eq.1 named') (beq_iff_eq.1 named))
    exact Nat.le_trans single (List.nodup_iff_count_le_one.1 distinct id)

/-- The names of the labels of the sample, message after message. -/
def labelNamesOf (catalog : LabelCatalog) (sample : List Message) : List String :=
  sample.flatMap fun m => m.labels.filterMap catalog.nameOf

theorem mem_labelNamesOf_iff {sample : List Message} :
    name ∈ labelNamesOf catalog sample ↔ sample.countP (carries catalog name) ≠ 0 := by
  rw [← Nat.pos_iff_ne_zero, List.countP_pos_iff, labelNamesOf, List.mem_flatMap]
  simp only [List.mem_filterMap, carries, List.any_eq_true, beq_iff_eq]

theorem count_labelNamesOf (sample : List Message) :
    (labelNamesOf catalog sample).count name = (sample.map (labelCount catalog name)).sum := by
  have each : List.count name ∘ (fun m => m.labels.filterMap catalog.nameOf) = labelCount catalog name :=
    funext fun m => List.count_filterMap
  rw [labelNamesOf, List.count_flatMap, each]

theorem get?_coverage (sample : List Message) (catalog : LabelCatalog) (name : String) :
    Table.get? (coverage sample catalog) name =
      if sample.countP (carries catalog name) = 0 then none
      else some (sample.map (labelCount catalog name)).sum := by
  have counted : coverage sample catalog = (labelNamesOf catalog sample).foldl SortedTable.count [] := rfl
  rw [counted, SortedTable.get?_foldl_count _ List.Pairwise.nil]
  simp only [mem_labelNamesOf_iff, ite_not, Table.get?_nil, Option.getD_none, Nat.zero_add,
    count_labelNamesOf]

/-- The coverage has one entry, in ascending order, for each name that a label of the sample resolves to. It is the
number of these labels, which is at least the number of messages that carry one, and equal to it exactly if no
message carries two: as it is where no message has a label twice and no two labels share the name. -/
theorem coverage_counts_labels (sample : List Message) (catalog : LabelCatalog) (name : String) :
    let labels := (sample.map (labelCount catalog name)).sum
    let messages := sample.countP (carries catalog name)
    Ascending Prod.fst (coverage sample catalog) ∧
      Table.get? (coverage sample catalog) name = (if messages = 0 then none else some labels) ∧
      messages ≤ labels ∧ (labels = messages ↔ ∀ m ∈ sample, labelCount catalog name m ≤ 1) ∧
      ((∀ m ∈ sample, m.labels.Nodup) →
        (∀ id id', catalog.nameOf id = some name → catalog.nameOf id' = some name → id = id') →
          labels = messages ∧ labels ≤ sample.length) := by
  intro labels messages
  have positive (m : Message) : carries catalog name m = true ↔ 0 < labelCount catalog name m := carries_iff
  obtain ⟨le, iff⟩ := countP_le_sum_map positive sample
  refine ⟨SortedTable.ascending_foldl_count _ List.Pairwise.nil, get?_coverage sample catalog name, le, iff,
    fun distinct alone => ?_⟩
  have equal : labels = messages := iff.2 fun m mem => labelCount_le_one (distinct m mem) alone
  exact ⟨equal, equal ▸ List.countP_le_length⟩

/-- A message with some labels and no headers. -/
def labelledMessage (id : String) (labels : List LabelId) : Message := ⟨id, labels, []⟩

theorem coverage_counts_labels_distinct :
    let catalog := LabelCatalog.ofList [("L1", "bulk"), ("L2", "news")]
    let sample := [labelledMessage "m1" ["L1", "L2"], labelledMessage "m2" ["L0", "L1"]]
    ((∀ m ∈ sample, m.labels.Nodup) ∧
      ∀ id id', catalog.nameOf id = some "bulk" → catalog.nameOf id' = some "bulk" → id = id') ∧
      Table.get? (coverage sample catalog) "bulk" = some 2 ∧
      (sample.map (labelCount catalog "bulk")).sum = sample.countP (carries catalog "bulk") := by
  intro catalog sample
  have distinct : ∀ m ∈ sample, m.labels.Nodup := by decide
  have alone (id id' : LabelId) (named : catalog.nameOf id = some "bulk")
      (named' : catalog.nameOf id' = some "bulk") : id = id' := by
    have recorded : catalog.byId = [("L1", "bulk"), ("L2", "news")] := by decide
    have only (id : LabelId) (named : catalog.nameOf id = some "bulk") : id = "L1" := by
      rw [LabelCatalog.nameOf, recorded, Table.get?_cons, Table.get?_cons, Table.get?_nil] at named
      grind
    rw [only id named, only id' named']
  obtain ⟨-, -, -, -, counts⟩ := coverage_counts_labels sample catalog "bulk"
  exact ⟨⟨distinct, alone⟩, by decide, (counts distinct alone).1⟩

/-- A label that stands twice on one message, and two labels of one name, count twice. -/
theorem coverage_exceeds_messages :
    let twice := [labelledMessage "m1" ["L1", "L1"]]
    let namesakes := [labelledMessage "m1" ["L1", "L2"]]
    let catalog := LabelCatalog.ofList [("L1", "bulk"), ("L2", "bulk")]
    (Table.get? (coverage twice catalog) "bulk" = some 2 ∧ twice.countP (carries catalog "bulk") = 1) ∧
      Table.get? (coverage namesakes catalog) "bulk" = some 2 ∧
      namesakes.countP (carries catalog "bulk") = 1 := by
  decide

end Analysis

end InboxAudit
