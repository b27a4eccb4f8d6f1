import InboxAudit.Toml.Value

/-!
# Tables under construction

While a document is read its tables remember how they came about: by a header of their own, as the
parent of a header, or as a part of a dotted key. A header may complete a table that is only
implied, and no table that was given once; dotted keys may extend what dotted keys made. The items
of an array of tables are tables of their own, and names lead into the last of them.
-/

namespace InboxAudit.Toml
set_option autoImplicit false

/-- How a table came about. -/
inductive Origin where
  | header
  | implied
  | dotted
  deriving Repr, DecidableEq

/-- A value, a table, or an array of tables under construction. -/
inductive Tree where
  | value (value : Toml)
  | table (origin : Origin) (entries : List (String × Tree))
  | tables (items : List (List (String × Tree)))
  deriving Inhabited

/-- The entries of a table under construction. -/
abbrev Entries := List (String × Tree)

namespace Tree

/-- What stands under a name. -/
def get? (entries : Entries) (name : String) : Option Tree :=
  (entries.find? (·.1 = name)).map (·.2)

/-- The entries with a tree under a name, in place of the one that is there. -/
def put (entries : Entries) (name : String) (tree : Tree) : Entries :=
  if (get? entries name).isSome then entries.map fun e => if e.1 = name then (name, tree) else e
  else entries ++ [(name, tree)]

/-- The entries with a new value under a dotted key, taken from a table of the given origin. The
table that gets the value must have been made by the dots of its key. -/
def addDotted (origin : Origin) (entries : Entries) (key : String) (v : Toml) :
    List String → Option Entries
  | [] =>
    if origin = .dotted ∧ (get? entries key).isNone then some (put entries key (.value v)) else none
  | name :: path =>
    match get? entries name with
    | none => (addDotted .dotted [] key v path).map fun sub => put entries name (.table .dotted sub)
    | some (.value _) => none
    | some (.table .header _) => none
    | some (.table origin sub) =>
      (addDotted origin sub key v path).map fun sub => put entries name (.table origin sub)
    | some (.tables items) =>
      (addDotted .header (items.getLastD []) key v path).map fun sub =>
        put entries name (.tables (items.dropLast ++ [sub]))

/-- The entries with a new value under a key of one or more names. -/
def add (entries : Entries) (path : List String) (key : String) (v : Toml) : Option Entries :=
  match path with
  | [] => if (get? entries key).isNone then some (put entries key (.value v)) else none
  | path => addDotted .header entries key v path

/-- The entries with the table that some names lead to changed; tables on the way are implied where
they are missing. -/
def alterTable (change : Entries → Option Entries) : List String → Entries → Option Entries
  | [], entries => change entries
  | name :: path, entries =>
    match get? entries name with
    | none => (alterTable change path []).map fun sub => put entries name (.table .implied sub)
    | some (.value _) => none
    | some (.table origin sub) =>
      (alterTable change path sub).map fun sub => put entries name (.table origin sub)
    | some (.tables items) =>
      (alterTable change path (items.getLastD [])).map fun sub =>
        put entries name (.tables (items.dropLast ++ [sub]))

/-- The entries with a table that has a header of its own. -/
def openTable (name : String) (entries : Entries) : Option Entries :=
  match get? entries name with
  | none => some (put entries name (.table .header []))
  | some (.table .implied sub) => some (put entries name (.table .header sub))
  | some _ => none

/-- The entries with one more table in an array of tables. -/
def openItem (name : String) (entries : Entries) : Option Entries :=
  match get? entries name with
  | none => some (put entries name (.tables [[]]))
  | some (.tables items) => some (put entries name (.tables (items ++ [[]])))
  | some _ => none

mutual

/-- The value of a finished tree. -/
def toToml : Tree → Toml
  | .value v => v
  | .table _ entries => .table (entriesToToml entries)
  | .tables items => .array (itemsToToml items)

/-- The values of finished entries. -/
def entriesToToml : List (String × Tree) → List (String × Toml)
  | [] => []
  | (name, tree) :: rest => (name, toToml tree) :: entriesToToml rest

/-- The tables of a finished array of tables. -/
def itemsToToml : List (List (String × Tree)) → List Toml
  | [] => []
  | item :: rest => .table (entriesToToml item) :: itemsToToml rest

end

end Tree

end InboxAudit.Toml
