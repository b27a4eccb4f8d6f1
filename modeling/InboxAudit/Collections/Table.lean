/-!
# Tables of texts

A `Table` keeps one value a key in the order in which the keys first came. Putting a value under
a key that is there replaces the value in its place. `get?_put` says what a look-up sees.
-/

namespace InboxAudit
set_option autoImplicit false

/-- Values under distinct keys, in the order of their first appearance. -/
abbrev Table (α : Type) := List (String × α)

namespace Table

variable {α : Type}

/-- The value under a key. -/
def get? (table : Table α) (key : String) : Option α :=
  (table.find? (·.1 = key)).map (·.2)

/-- The table with a value under a key, in place of an earlier one. -/
def put : Table α → String → α → Table α
  | [], key, value => [(key, value)]
  | (k, v) :: rest, key, value =>
    if k = key then (k, value) :: rest else (k, v) :: put rest key value

/-- The table whose entries are put in order. -/
def ofEntries (entries : List (String × α)) : Table α :=
  entries.foldl (fun table entry => put table entry.1 entry.2) []

/-- Some value stands under the key. -/
def hasKey (table : Table α) (key : String) : Bool :=
  (get? table key).isSome

/-- The table without a key. -/
def erase (table : Table α) (key : String) : Table α := table.filter (·.1 ≠ key)

/-- The keys in order. -/
def keys (table : Table α) : List String := table.map (·.1)

@[simp] theorem get?_nil (key : String) : get? ([] : Table α) key = none := rfl

theorem get?_cons (entry : String × α) (rest : Table α) (key : String) :
    get? (entry :: rest) key = if entry.1 = key then some entry.2 else get? rest key := by
  by_cases h : entry.1 = key <;> simp [get?, h]

theorem get?_put (table : Table α) (key other : String) (value : α) :
    get? (put table key value) other = if key = other then some value else get? table other := by
  induction table with
  | nil => simp [put, get?_cons]
  | cons entry rest ih =>
    obtain ⟨k, v⟩ := entry
    by_cases h : k = key
    · subst h
      by_cases e : k = other <;> simp [put, get?_cons, e]
    · by_cases e : k = other
      · subst e
        have : key ≠ k := fun eq => h eq.symm
        simp [put, get?_cons, h, this]
      · simp [put, get?_cons, h, e, ih]

/-- A new key comes last, and a key that is there keeps its place. -/
theorem keys_put (table : Table α) (key : String) (value : α) :
    (put table key value).keys = if key ∈ table.keys then table.keys else table.keys ++ [key] := by
  induction table with
  | nil => simp [put, keys]
  | cons entry rest ih =>
    obtain ⟨k, v⟩ := entry
    simp only [keys, List.map_cons] at ih ⊢
    by_cases h : k = key
    · simp [put, h]
    · have other : key ≠ k := fun eq => h eq.symm
      rw [put, if_neg h, List.map_cons, ih]
      by_cases mem : key ∈ rest.map (·.1) <;> simp [mem, other]

theorem get?_erase (table : Table α) (key other : String) :
    get? (erase table key) other = if key = other then none else get? table other := by
  induction table with
  | nil => simp [erase]
  | cons entry rest ih =>
    simp only [erase, List.filter_cons]
    by_cases h : entry.1 = key <;> by_cases e : key = other <;> simp_all [get?_cons, erase]

end Table

end InboxAudit
