import InboxAudit.Json.Value
import InboxAudit.Toml.Value

/-!
# TOML as JSON

A TOML value seen as JSON, so that one reader of records serves both: tables are objects, and a
number with a fraction is one. JSON has no times; a time is an object whose members nobody knows.
-/

namespace InboxAudit.Toml
set_option autoImplicit false

mutual

/-- A value as JSON. -/
def toJson : Toml → Json
  | .string text => .string text
  | .integer value => .number (.integer value)
  | .boolean value => .bool value
  | .float literal => .number (.decimal literal)
  | .time _ => .object []
  | .array items => .array (itemsToJson items)
  | .table entries => .object (entriesToJson entries)

/-- The items of an array as JSON. -/
def itemsToJson : List Toml → List Json
  | [] => []
  | item :: rest => toJson item :: itemsToJson rest

/-- The entries of a table as JSON. -/
def entriesToJson : List (String × Toml) → List (String × Json)
  | [] => []
  | (name, value) :: rest => (name, toJson value) :: entriesToJson rest

end

end InboxAudit.Toml
