import InboxAudit.Analysis.Findings
import InboxAudit.Proofs.Collections.Ascending
import Mathlib.Data.List.Induction

/-!
# Lists without repetitions

`firstSeen` keeps the members of a list and holds each of them once. In a list made of ascending
parts an item stands before another if its first part comes earlier, or the items share that part
and the first one is less (`pairwise_firstSeen_flatten`).
-/

namespace InboxAudit.Analysis
set_option autoImplicit false

/-- The list seen so far with one more item. -/
def seenWith (seen : List String) (item : String) : List String :=
  if item ∈ seen then seen else seen ++ [item]

theorem firstSeen_eq_foldl (items : List String) : firstSeen items = items.foldl seenWith [] := rfl

theorem mem_seenWith {seen : List String} {item other : String} :
    other ∈ seenWith seen item ↔ other ∈ seen ∨ other = item := by
  unfold seenWith
  split
  · next mem =>
    constructor
    · exact .inl
    · rintro (h | rfl)
      · exact h
      · exact mem
  · simp

theorem nodup_seenWith {seen : List String} (h : seen.Nodup) (item : String) :
    (seenWith seen item).Nodup := by
  unfold seenWith
  split
  · exact h
  · next new =>
    rw [List.nodup_append]
    refine ⟨h, by simp, ?_⟩
    intro a mem b eq
    rw [List.mem_singleton.1 eq]
    exact fun same => new (same ▸ mem)

theorem mem_firstSeen {items : List String} {item : String} :
    item ∈ firstSeen items ↔ item ∈ items := by
  suffices fold : ∀ seen : List String,
      item ∈ items.foldl seenWith seen ↔ item ∈ seen ∨ item ∈ items by
    rw [firstSeen_eq_foldl, fold, or_iff_right List.not_mem_nil]
  induction items with
  | nil => simp
  | cons first rest ih =>
    intro seen
    rw [List.foldl_cons, ih, mem_seenWith, List.mem_cons, or_assoc]

theorem nodup_firstSeen (items : List String) : (firstSeen items).Nodup := by
  suffices fold : ∀ seen : List String, seen.Nodup → (items.foldl seenWith seen).Nodup from
    fold [] List.nodup_nil
  induction items with
  | nil => exact fun seen h => h
  | cons first rest ih => exact fun seen h => ih _ (nodup_seenWith h first)

/-- Lists with the same members give the same items, in an order of their own. -/
theorem firstSeen_perm {items items' : List String} (h : ∀ item, item ∈ items ↔ item ∈ items') :
    (firstSeen items).Perm (firstSeen items') := by
  rw [List.perm_ext_iff_of_nodup (nodup_firstSeen items) (nodup_firstSeen items')]
  intro item
  rw [mem_firstSeen, mem_firstSeen]
  exact h item

theorem firstSeen_concat (items : List String) (item : String) :
    firstSeen (items ++ [item]) = seenWith (firstSeen items) item := by
  rw [firstSeen_eq_foldl, List.foldl_append]
  rfl

theorem foldl_seenWith (seen items : List String) :
    items.foldl seenWith seen = seen ++ (firstSeen items).filter (· ∉ seen) := by
  induction items using List.reverseRecOn with
  | nil => simp [firstSeen_eq_foldl]
  | append_singleton items item ih =>
    rw [List.foldl_append, List.foldl_cons, List.foldl_nil, ih, firstSeen_concat]
    by_cases before : item ∈ seen
    · by_cases again : item ∈ firstSeen items
      · simp [seenWith, before, again]
      · simp [seenWith, before, again]
    · by_cases again : item ∈ firstSeen items
      · simp [seenWith, before, again]
      · simp [seenWith, before, again]

/-- What comes later is left out if it was there before. -/
theorem firstSeen_append (items more : List String) :
    firstSeen (items ++ more) = firstSeen items ++ (firstSeen more).filter (· ∉ items) := by
  rw [firstSeen_eq_foldl, List.foldl_append, ← firstSeen_eq_foldl, foldl_seenWith]
  simp only [mem_firstSeen]

theorem firstSeen_of_nodup {items : List String} (h : items.Nodup) : firstSeen items = items := by
  induction items using List.reverseRecOn with
  | nil => rfl
  | append_singleton items item ih =>
    obtain ⟨unique, -, apart⟩ := List.nodup_append.1 h
    have new : item ∉ items := fun mem => apart item mem item (List.mem_singleton_self item) rfl
    rw [firstSeen_append, ih unique]
    simp [firstSeen, new]

/-- The first part that holds one item comes before the first part that holds the other, or they
share it and the one item is less. -/
def StandsBefore (parts : List (List String)) (a b : String) : Prop :=
  parts.findIdx (a ∈ ·) < parts.findIdx (b ∈ ·) ∨
    parts.findIdx (a ∈ ·) = parts.findIdx (b ∈ ·) ∧ a < b

theorem standsBefore_cons_of_not_mem {part : List String} {parts : List (List String)} {a b : String}
    (notA : a ∉ part) (notB : b ∉ part) (h : StandsBefore parts a b) :
    StandsBefore (part :: parts) a b := by
  simpa [StandsBefore, List.findIdx_cons, notA, notB] using h

/-- The items of ascending parts stand in the order of their first parts, and in ascending order
within one part. -/
theorem pairwise_firstSeen_flatten {parts : List (List String)}
    (ascending : ∀ part ∈ parts, Ascending id part) :
    (firstSeen parts.flatten).Pairwise (StandsBefore parts) := by
  induction parts with
  | nil => exact List.Pairwise.nil
  | cons part parts ih =>
    obtain ⟨first, others⟩ := List.forall_mem_cons.1 ascending
    rw [List.flatten_cons, firstSeen_append, firstSeen_of_nodup first.nodup, List.pairwise_append]
    have within : part.Pairwise (StandsBefore (part :: parts)) := by
      apply first.imp_of_mem
      intro a b memA memB lt
      right
      simpa [List.findIdx_cons, memA, memB] using lt
    have later : ((firstSeen parts.flatten).filter (· ∉ part)).Pairwise
        (StandsBefore (part :: parts)) := by
      apply ((ih others).filter _).imp_of_mem
      intro a b memA memB before
      have notA : a ∉ part := by simpa using (List.mem_filter.1 memA).2
      have notB : b ∉ part := by simpa using (List.mem_filter.1 memB).2
      exact standsBefore_cons_of_not_mem notA notB before
    refine ⟨within, later, ?_⟩
    intro a memA b memB
    have notB : b ∉ part := by simpa using (List.mem_filter.1 memB).2
    left
    simp [List.findIdx_cons, memA, notB]

end InboxAudit.Analysis
