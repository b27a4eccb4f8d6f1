import InboxAudit.Analysis.Ranking
import Mathlib.Data.List.Induction

/-!
# Where the rows of a ranking come from

Every row of a ranking is about a key that is not empty and that some message of the sample has
(`exists_message_of_mem_ranking`).
-/

namespace InboxAudit
set_option autoImplicit false

theorem Table.mem_put {α : Type} {table : Table α} {key : String} {value : α} {entry : String × α}
    (h : entry ∈ table.put key value) : entry.1 = key ∨ entry ∈ table := by
  induction table with
  | nil => exact .inl (congrArg Prod.fst (List.mem_singleton.1 h))
  | cons first rest ih =>
    obtain ⟨k, v⟩ := first
    simp only [Table.put] at h
    split at h
    · next same =>
      rcases List.mem_cons.1 h with rfl | mem
      · exact .inl same
      · exact .inr (List.mem_cons_of_mem _ mem)
    · rcases List.mem_cons.1 h with rfl | mem
      · exact .inr List.mem_cons_self
      · exact (ih mem).imp_right (List.mem_cons_of_mem _)

namespace Analysis

open Mail (Message)

theorem exists_message_of_mem_tallies {key : Message → String} {sample : List Message}
    {entry : String × Tally} (h : entry ∈ tallies key sample) :
    entry.1 ≠ "" ∧ ∃ m ∈ sample, key m = entry.1 := by
  unfold tallies at h
  induction sample using List.reverseRecOn with
  | nil => cases h
  | append_singleton sample m ih =>
    have widen (h : entry.1 ≠ "" ∧ ∃ m ∈ sample, key m = entry.1) :
        entry.1 ≠ "" ∧ ∃ m' ∈ sample ++ [m], key m' = entry.1 := by
      obtain ⟨filled, m', mem, keyed⟩ := h
      exact ⟨filled, m', List.mem_append_left _ mem, keyed⟩
    rw [List.foldl_append, List.foldl_cons, List.foldl_nil] at h
    split at h
    · exact widen (ih h)
    · next filled =>
      rcases Table.mem_put h with same | mem
      · rw [same]
        exact ⟨filled, m, by simp, rfl⟩
      · exact widen (ih mem)

theorem exists_message_of_mem_ranking {key : Message → String} {top : Nat} {sample : List Message}
    {row : Standing} (h : row ∈ ranking key top sample) :
    row.key ≠ "" ∧ ∃ m ∈ sample, key m = row.key := by
  have mem := List.mem_mergeSort.1 (List.mem_of_mem_take h)
  obtain ⟨entry, listed, rfl⟩ := List.mem_map.1 mem
  exact exists_message_of_mem_tallies listed

theorem ranking_singleton (key : Message → String) (top : Nat) (m : Message) :
    ranking key top [m] =
      if key m = "" then [] else [⟨key m, 1, m.header "Subject"⟩].take top := by
  unfold ranking tallies
  split
  · next empty => simp [empty]
  · next filled => simp [filled, Table.put, Table.get?, Tally.add]

/-- A message of a list from a sender. -/
def listMessage (list sender : String) : Message :=
  Message.ofHeaders "m1" [] [("List-Id", list), ("From", sender)]

end Analysis

end InboxAudit
