/-!
# Sorted sets of names

A set of names is a list in ascending code-point order without repetition. `ofList` brings any
list of names into this form; only which names occur matters (`mem_ofList`).
-/

namespace InboxAudit.Names
set_option autoImplicit false

/-- The set with one more name. -/
def insert (name : String) : List String → List String
  | [] => [name]
  | first :: rest =>
    if name < first then name :: first :: rest
    else if name = first then first :: rest
    else first :: insert name rest

/-- The set of the names in a list. -/
def ofList (names : List String) : List String :=
  names.foldr insert []

theorem mem_insert {name other : String} {names : List String} :
    other ∈ insert name names ↔ other = name ∨ other ∈ names := by
  induction names with
  | nil => simp [insert]
  | cons first rest ih =>
    simp only [insert]
    split
    · simp
    · split
      · next h => subst h; simp
      · simp only [List.mem_cons, ih]; grind

theorem mem_ofList {name : String} {names : List String} :
    name ∈ ofList names ↔ name ∈ names := by
  induction names with
  | nil => simp [ofList]
  | cons first rest ih =>
    simp only [ofList, List.foldr_cons, mem_insert, List.mem_cons]
    exact or_congr Iff.rfl ih

end InboxAudit.Names
