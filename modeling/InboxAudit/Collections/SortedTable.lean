/-!
# Sorted tables of texts

One value a key, in ascending code-point order of the keys. Every change goes through `alter`.
-/

namespace InboxAudit
set_option autoImplicit false

/-- Values under distinct keys, in ascending order of the keys. -/
abbrev SortedTable (α : Type) := List (String × α)

namespace SortedTable

variable {α : Type}

/-- The table with the value of a key computed from the one that is there. -/
def alter (key : String) (f : Option α → α) : SortedTable α → SortedTable α
  | [] => [(key, f none)]
  | (first, value) :: rest =>
    if key < first then (key, f none) :: (first, value) :: rest
    else if key = first then (first, f (some value)) :: rest
    else (first, value) :: alter key f rest

/-- The table with a value under a key, in place of an earlier one. -/
def put (table : SortedTable α) (key : String) (value : α) : SortedTable α :=
  alter key (fun _ => value) table

/-- The table with a value under a key, unless one is there. -/
def putNew (table : SortedTable α) (key : String) (value : α) : SortedTable α :=
  alter key (·.getD value) table

/-- The table of counts with one more under a key. -/
def count (table : SortedTable Nat) (key : String) : SortedTable Nat :=
  alter key (fun n => n.getD 0 + 1) table

/-- The table whose entries are put in order. -/
def ofEntries (entries : List (String × α)) : SortedTable α :=
  entries.foldl (fun table entry => put table entry.1 entry.2) []

end SortedTable

end InboxAudit
