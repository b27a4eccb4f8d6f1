import InboxAudit.Collections.Names
import InboxAudit.Collections.SortedTable
import InboxAudit.Collections.Table

/-!
# Ascending lists

Sets of names and sorted tables are lists in strictly ascending order of their names or keys, and
such a list is known by its members (`Ascending.eq_of_mem_iff`). So a set of names depends on which
names occur and on nothing else (`Names.ofList_congr`), and a sorted table into which values are put
unless their key is taken shows the first value of every key (`SortedTable.get?_foldl_putNew`).
-/

namespace InboxAudit
set_option autoImplicit false

variable {α : Type}

/-- The list is in strictly ascending order of the texts that `key` gives. -/
def Ascending (key : α → String) (l : List α) : Prop :=
  l.Pairwise fun a b => key a < key b

theorem Ascending.nodup_map {key : α → String} {l : List α} (h : Ascending key l) :
    (l.map key).Nodup := by
  apply List.Pairwise.map key _ h
  intro a b lt eq
  rw [eq] at lt
  exact String.lt_irrefl _ lt

theorem Ascending.nodup {key : α → String} {l : List α} (h : Ascending key l) : l.Nodup :=
  List.Pairwise.of_map key (fun _ _ ne eq => ne (congrArg key eq)) h.nodup_map

/-- Two ascending lists with the same members are equal. -/
theorem Ascending.eq_of_mem_iff {key : α → String} {l l' : List α} (h : Ascending key l)
    (h' : Ascending key l') (mem : ∀ a, a ∈ l ↔ a ∈ l') : l = l' := by
  have perm : l.Perm l' := (List.perm_ext_iff_of_nodup h.nodup h'.nodup).2 mem
  apply perm.eq_of_pairwise _ h h'
  intro a b _ _ lt gt
  exact absurd gt (String.lt_asymm lt)

/-- Sorting by a key does not show in which order the items came, if the key tells them apart. -/
theorem mergeSort_eq_of_perm {key : α → String} {l l' : List α} (perm : l.Perm l')
    (unique : ∀ a ∈ l, ∀ b ∈ l, key a = key b → a = b) :
    l.mergeSort (fun a b => decide (key a ≤ key b)) =
      l'.mergeSort (fun a b => decide (key a ≤ key b)) := by
  have sorted (l : List α) : (l.mergeSort fun a b => decide (key a ≤ key b)).Pairwise
      fun a b => key a ≤ key b := by
    have pairwise : (l.mergeSort fun a b => decide (key a ≤ key b)).Pairwise
        fun a b => decide (key a ≤ key b) = true := by
      apply List.pairwise_mergeSort
      · intro a b c ab bc
        exact decide_eq_true (String.le_trans (of_decide_eq_true ab) (of_decide_eq_true bc))
      · intro a b
        simpa using String.le_total (key a) (key b)
    exact pairwise.imp of_decide_eq_true
  have perms : (l.mergeSort fun a b => decide (key a ≤ key b)).Perm
      (l'.mergeSort fun a b => decide (key a ≤ key b)) :=
    (List.mergeSort_perm l _).trans (perm.trans (List.mergeSort_perm l' _).symm)
  apply perms.eq_of_pairwise _ (sorted l) (sorted l')
  intro a b memA memB ab ba
  have memB : b ∈ l := List.mem_mergeSort.1 (perms.mem_iff.2 memB)
  exact unique a (List.mem_mergeSort.1 memA) b memB (String.le_antisymm ab ba)

namespace Names

theorem ascending_insert (name : String) {names : List String} (h : Ascending id names) :
    Ascending id (insert name names) := by
  induction names with
  | nil => simp [insert, Ascending]
  | cons first rest ih =>
    obtain ⟨above, tail⟩ := List.pairwise_cons.1 h
    simp only [insert]
    split
    · next lt =>
      refine List.pairwise_cons.2 ⟨fun other mem => ?_, h⟩
      rcases List.mem_cons.1 mem with rfl | mem
      · exact lt
      · exact String.lt_trans lt (above other mem)
    · next notLt =>
      split
      · exact h
      · next ne =>
        have gt : first < name :=
          String.not_le.1 fun le => ne (String.le_antisymm le (String.not_lt.1 notLt))
        refine List.pairwise_cons.2 ⟨fun other mem => ?_, ih tail⟩
        rcases mem_insert.1 mem with rfl | mem
        · exact gt
        · exact above other mem

theorem ascending_ofList (names : List String) : Ascending id (ofList names) := by
  induction names with
  | nil => exact List.Pairwise.nil
  | cons name rest ih => exact ascending_insert name ih

/-- A set of names depends on which names occur in the list. -/
theorem ofList_congr {names names' : List String} (h : ∀ name, name ∈ names ↔ name ∈ names') :
    ofList names = ofList names' := by
  apply (ascending_ofList names).eq_of_mem_iff (ascending_ofList names')
  intro name
  rw [mem_ofList, mem_ofList]
  exact h name

end Names

namespace SortedTable

open Table (get? get?_cons get?_nil)

theorem get?_eq_none {table : SortedTable α} {key : String}
    (h : ∀ entry ∈ table, key < entry.1) : get? table key = none := by
  induction table with
  | nil => rfl
  | cons entry rest ih =>
    have ne : entry.1 ≠ key := fun eq => String.lt_irrefl key (by simpa [eq] using h entry)
    rw [get?_cons, if_neg ne]
    exact ih fun other mem => h other (List.mem_cons_of_mem _ mem)

/-- In an ascending table an entry is what a look-up of its key finds. -/
theorem mem_iff_get? {table : SortedTable α} (h : Ascending Prod.fst table) (key : String)
    (value : α) : (key, value) ∈ table ↔ get? table key = some value := by
  induction table with
  | nil => simp
  | cons entry rest ih =>
    obtain ⟨above, tail⟩ := List.pairwise_cons.1 h
    obtain ⟨first, v⟩ := entry
    rw [List.mem_cons, ih tail, get?_cons]
    by_cases eq : first = key
    · subst eq
      have absent : get? rest first = none := get?_eq_none above
      simp [absent, eq_comm]
    · simp [eq, Ne.symm eq]

theorem mem_alter {key : String} {f : Option α → α} {table : SortedTable α} {entry : String × α}
    (h : entry ∈ alter key f table) : entry.1 = key ∨ entry ∈ table := by
  induction table with
  | nil => exact .inl (by simp_all [alter])
  | cons first rest ih =>
    simp only [alter] at h
    split at h
    · rcases List.mem_cons.1 h with rfl | mem
      · exact .inl rfl
      · exact .inr mem
    · split at h
      · next eq =>
        rcases List.mem_cons.1 h with rfl | mem
        · exact .inl eq.symm
        · exact .inr (List.mem_cons_of_mem _ mem)
      · rcases List.mem_cons.1 h with rfl | mem
        · exact .inr List.mem_cons_self
        · exact (ih mem).imp_right (List.mem_cons_of_mem _)

theorem ascending_alter (key : String) (f : Option α → α) {table : SortedTable α}
    (h : Ascending Prod.fst table) : Ascending Prod.fst (alter key f table) := by
  induction table with
  | nil => simp [alter, Ascending]
  | cons entry rest ih =>
    obtain ⟨above, tail⟩ := List.pairwise_cons.1 h
    simp only [alter]
    split
    · next lt =>
      refine List.pairwise_cons.2 ⟨fun other mem => ?_, h⟩
      rcases List.mem_cons.1 mem with rfl | mem
      · exact lt
      · exact String.lt_trans lt (above other mem)
    · next notLt =>
      split
      · exact List.pairwise_cons.2 ⟨above, tail⟩
      · next ne =>
        have gt : entry.1 < key :=
          String.not_le.1 fun le => ne (String.le_antisymm le (String.not_lt.1 notLt))
        refine List.pairwise_cons.2 ⟨fun other mem => ?_, ih tail⟩
        rcases mem_alter mem with eq | mem
        · exact eq ▸ gt
        · exact above other mem

theorem get?_alter (key other : String) (f : Option α → α) {table : SortedTable α}
    (h : Ascending Prod.fst table) :
    get? (alter key f table) other =
      if key = other then some (f (get? table key)) else get? table other := by
  induction table with
  | nil => simp [alter, get?_cons]
  | cons entry rest ih =>
    obtain ⟨above, tail⟩ := List.pairwise_cons.1 h
    obtain ⟨first, v⟩ := entry
    simp only [alter]
    split
    · next lt =>
      have absent : get? ((first, v) :: rest) key = none := by
        apply get?_eq_none
        intro entry mem
        rcases List.mem_cons.1 mem with rfl | mem
        · exact lt
        · exact String.lt_trans lt (above entry mem)
      rw [get?_cons, absent]
    · split
      · next eq => subst eq; by_cases e : key = other <;> simp [get?_cons, e]
      · next ne =>
        rw [get?_cons, ih tail]
        by_cases e : first = other
        · subst e
          simp [get?_cons, ne]
        · simp [get?_cons, e, Ne.symm ne]

section Filling

variable (key : α → String)

theorem ascending_foldl_putNew (values : List α) {table : SortedTable α}
    (h : Ascending Prod.fst table) :
    Ascending Prod.fst (values.foldl (fun table v => putNew table (key v) v) table) := by
  induction values generalizing table with
  | nil => exact h
  | cons v rest ih => exact ih (ascending_alter _ _ h)

/-- A key that was free shows the first of the values that were put under it. -/
theorem get?_foldl_putNew (values : List α) {table : SortedTable α}
    (h : Ascending Prod.fst table) (k : String) :
    get? (values.foldl (fun table v => putNew table (key v) v) table) k =
      (get? table k).or (values.find? fun v => key v = k) := by
  induction values generalizing table with
  | nil => simp
  | cons v rest ih =>
    have ascending : Ascending Prod.fst (putNew table (key v) v) := ascending_alter _ _ h
    have step : get? (putNew table (key v) v) k =
        if key v = k then some ((get? table (key v)).getD v) else get? table k :=
      get?_alter (key v) k (·.getD v) h
    rw [List.foldl_cons, ih ascending, step, List.find?_cons]
    by_cases eq : key v = k
    · subst eq
      cases get? table (key v) <;> simp
    · simp [eq]

end Filling

theorem put_append {table : SortedTable α} {key : String} (above : ∀ entry ∈ table, entry.1 < key)
    (value : α) : put table key value = table ++ [(key, value)] := by
  induction table with
  | nil => rfl
  | cons entry rest ih =>
    obtain ⟨below, tail⟩ := List.forall_mem_cons.1 above
    have ne : key ≠ entry.1 := fun eq => String.lt_irrefl entry.1 (eq ▸ below)
    rw [put, alter, if_neg (String.lt_asymm below), if_neg ne, List.cons_append]
    exact congrArg _ (ih tail)

/-- A table that is put in order once more stays as it is. -/
theorem ofEntries_of_ascending {table : SortedTable α} (h : Ascending Prod.fst table) :
    ofEntries table = table := by
  suffices fill : ∀ done : SortedTable α, Ascending Prod.fst (done ++ table) →
      table.foldl (fun table entry => put table entry.1 entry.2) done = done ++ table from fill [] h
  clear h
  induction table with
  | nil => exact fun done _ => (List.append_nil done).symm
  | cons entry rest ih =>
    intro done ascending
    have above : ∀ earlier ∈ done, earlier.1 < entry.1 := fun earlier mem =>
      (List.pairwise_append.1 ascending).2.2 earlier mem entry List.mem_cons_self
    rw [List.foldl_cons, put_append above, ih, List.append_assoc, List.singleton_append]
    rwa [List.append_assoc, List.singleton_append]

end SortedTable

end InboxAudit
