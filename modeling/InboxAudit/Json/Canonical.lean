import InboxAudit.Collections.SortedTable
import InboxAudit.Json.Number
import InboxAudit.Json.Printer

/-!
# Canonical JSON

A document whose objects have distinct keys in ascending order: of a repeated key the last value
counts. A document that holds unreadable text or too large a number or is nested too deeply has no
canonical form.
-/

namespace InboxAudit.Json
set_option autoImplicit false

mutual

/-- The canonical form of a document. -/
def sortKeys : Json → Option Json
  | .array items => (sortItems items).map .array
  | .object members => (sortMembers members).map fun ms => .object (SortedTable.ofEntries ms)
  | .number n => n.canonical?.map .number
  | .unreadable => none
  | v => some v

/-- The canonical forms of some items. -/
def sortItems : List Json → Option (List Json)
  | [] => some []
  | item :: rest => do return (← sortKeys item) :: (← sortItems rest)

/-- The canonical forms of some members, still in their order. -/
def sortMembers : List (String × Json) → Option (List (String × Json))
  | [] => some []
  | (key, value) :: rest => do return (key, ← sortKeys value) :: (← sortMembers rest)

end

/-- The canonical form of a document nested less than 128 deep. -/
def canonical? (v : Json) : Option Json :=
  if v.depth < 128 then sortKeys v else none

end InboxAudit.Json
