import InboxAudit.Proofs.Analysis.Order
import InboxAudit.Report.Lint

/-!
# Lint reports and order

A lint report shows its findings sorted, so findings that are the same up to order read the same
(`summary_congr`) and break the same policies (`fails_congr`). Neither the order of the filters nor
that of the sample shows in a lint report, nor the order in which the messages are visited that some rule
hits (`ofExport_perm`).
-/

namespace InboxAudit.LintReport
set_option autoImplicit false

open InboxAudit.Analysis
open InboxAudit.Filter (Export)
open InboxAudit.Mail (LabelCatalog Message MessageId)

/-- The lint report on an export and a sample, the messages that are hit visited in the given order. -/
def ofExport (window : Window) (e : Export) (catalog : LabelCatalog) (sample : List Message)
    (ids : List MessageId) : LintReport :=
  let rules := e.rules catalog
  ⟨window, sample.length, analyzeOn rules (replay rules sample) catalog ids⟩

/-- The messages of a sample that some rule of an export hits. -/
def hitsOf (e : Export) (catalog : LabelCatalog) (sample : List Message) : List MessageId :=
  hitIds (e.rules catalog) (replay (e.rules catalog) sample)

section Congruence

variable {f g : Findings} (same : f.SameUpToOrder g)
include same

theorem isEmpty_congr : f.isEmpty = g.isEmpty := by
  rw [Findings.isEmpty, Findings.isEmpty, same.deadRules.isEmpty_eq, same.missingLabels.isEmpty_eq,
    same.conflicts]

theorem fails_congr (window : Window) (total : Nat) (policy : List String) :
    (LintReport.mk window total f).fails policy = (LintReport.mk window total g).fails policy := by
  have has : (LintReport.mk window total f).has = (LintReport.mk window total g).has := by
    funext kind
    cases kind with
    | dead => simp only [LintReport.has, same.deadRules.isEmpty_eq]
    | conflict => simp only [LintReport.has, same.conflicts]
    | missingLabel => simp only [LintReport.has, same.missingLabels.isEmpty_eq]
  rw [LintReport.fails, LintReport.fails, has]

/-- Dead rules of one name must be equal, because the sort leaves them as they came. -/
theorem summary_congr (window : Window) (total : Nat)
    (unique : ∀ d ∈ f.deadRules, ∀ d' ∈ f.deadRules, d.name = d'.name → d = d') :
    (LintReport.mk window total f).summary = (LintReport.mk window total g).summary := by
  have dead : sortedDeadRules f.deadRules = sortedDeadRules g.deadRules :=
    mergeSort_eq_of_perm same.deadRules unique
  have missing : f.missingLabels.mergeSort (fun a b => decide (a ≤ b)) =
      g.missingLabels.mergeSort (fun a b => decide (a ≤ b)) :=
    mergeSort_eq_of_perm same.missingLabels fun _ _ _ _ eq => eq
  unfold summary
  dsimp only
  rw [isEmpty_congr same, dead, missing, same.conflicts]

end Congruence

/-- All dead rules are dead for the same reason. -/
theorem deadRules_unique (rules : List Filter.Rule) (table : Replay) :
    ∀ d ∈ deadRules rules table, ∀ d' ∈ deadRules rules table, d.name = d'.name → d = d' := by
  intro d mem d' mem' eq
  obtain ⟨rule, -, rfl⟩ := List.mem_map.1 mem
  obtain ⟨rule', -, rfl⟩ := List.mem_map.1 mem'
  exact congrArg (DeadRule.mk · _) eq

theorem rules_perm {e e' : Export} (filters : e'.filters.Perm e.filters) (labels : e'.labels = e.labels)
    (catalog : LabelCatalog) : (e'.rules catalog).Perm (e.rules catalog) := by
  have names : Filter.labelNames e' catalog = Filter.labelNames e catalog := by
    rw [Filter.labelNames, Filter.labelNames, labels]
  rw [Export.rules, Export.rules, names]
  exact filters.map _

/-- Another order of the filters of an export, of the messages of a sample and of those among them that are visited
changes neither the text of the lint report nor its verdict under any policy. -/
theorem ofExport_perm (window : Window) (e e' : Export) (catalog : LabelCatalog)
    (sample sample' : List Message) (ids ids' : List MessageId) (policy : List String)
    (filters : e'.filters.Perm e.filters) (labels : e'.labels = e.labels) (messages : sample'.Perm sample)
    (visited : ids.Perm (hitsOf e catalog sample)) (visited' : ids'.Perm (hitsOf e' catalog sample'))
    (keys : KeysTellApart (e.rules catalog) sample) :
    (ofExport window e' catalog sample' ids').summary = (ofExport window e catalog sample ids).summary ∧
      (ofExport window e' catalog sample' ids').fails policy =
        (ofExport window e catalog sample ids).fails policy := by
  have rules := rules_perm filters labels catalog
  have same := analyzeOn_perm rules messages keys catalog visited visited'
  rw [ofExport, ofExport, messages.length_eq]
  exact ⟨summary_congr same _ _ (deadRules_unique _ _), fails_congr same _ _ policy⟩

theorem ofExport_perm_namesakes :
    let e := newsFilters "" ""
    let e' : Export := ⟨e.filters.reverse, e.labels⟩
    let sample := [newsLetter "m1" "alpha", newsLetter "m2" "beta", newsLetter "m1" "alpha beta"]
    (e'.filters.Perm e.filters ∧ e'.labels = e.labels ∧ sample.reverse.Perm sample ∧
      ["m1", "m2"].Perm (hitsOf e .empty sample) ∧ ["m2", "m1"].Perm (hitsOf e' .empty sample.reverse) ∧
      KeysTellApart (e.rules .empty) sample) ∧
      (ofExport ⟨86400, 0⟩ e' .empty sample.reverse ["m2", "m1"]).summary =
        (ofExport ⟨86400, 0⟩ e .empty sample ["m1", "m2"]).summary ∧
      (ofExport ⟨86400, 0⟩ e' .empty sample.reverse ["m2", "m1"]).fails ["conflict"] =
        (ofExport ⟨86400, 0⟩ e .empty sample ["m1", "m2"]).fails ["conflict"] := by
  intro e e' sample
  have filters : e'.filters.Perm e.filters := List.reverse_perm _
  have messages : sample.reverse.Perm sample := List.reverse_perm _
  have visited : ["m1", "m2"].Perm (hitsOf e .empty sample) := by decide +kernel
  have visited' : ["m2", "m1"].Perm (hitsOf e' .empty sample.reverse) := by decide +kernel
  have keys : KeysTellApart (e.rules .empty) sample := by decide +kernel
  have same := ofExport_perm ⟨86400, 0⟩ e e' .empty sample sample.reverse ["m1", "m2"] ["m2", "m1"] ["conflict"]
    filters rfl messages visited visited' keys
  exact ⟨⟨filters, rfl, messages, visited, visited', keys⟩, same⟩

end InboxAudit.LintReport
