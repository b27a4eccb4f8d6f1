import InboxAudit.Json.Record

/-!
# Filter exports

The filter set of a mailbox as its tool compiles it: filters with criteria and an action, and the
labels that the filters name by identifier. In JSON every field may be left out, and empty texts
and lists of a filter are not written.
-/

namespace InboxAudit
set_option autoImplicit false

/-- What a message must meet, each criterion in its raw text. -/
structure Filter.Criteria where
  sender : String
  recipient : String
  subject : String
  query : String
  list : String
  deriving Repr, DecidableEq

/-- What happens to a message that meets the criteria. -/
structure Filter.Action where
  addLabels : List String
  removeLabels : List String
  forward : String
  deriving Repr, DecidableEq

/-- One filter. -/
structure Filter where
  id : String
  name : String
  criteria : Filter.Criteria
  action : Filter.Action
  deriving Repr, DecidableEq

/-- A label that the export brings along. -/
structure Filter.Label where
  id : String
  name : String
  kind : String
  deriving Repr, DecidableEq

/-- A compiled filter set. -/
structure Filter.Export where
  filters : List Filter
  labels : List Filter.Label
  deriving Repr, DecidableEq

namespace Filter

/-- Criteria that say nothing. -/
def Criteria.empty : Criteria := ⟨"", "", "", "", ""⟩

/-- An action that does nothing. -/
def Action.empty : Action := ⟨[], [], ""⟩

/-- The export has neither filters nor labels. -/
def Export.isEmpty (e : Export) : Bool := e.filters.isEmpty && e.labels.isEmpty

open Json (fields? fieldOr text? list?)

/-- Criteria in JSON. -/
def Criteria.ofJson? (v : Json) : Option Criteria := do
  match ← fields? ["from", "to", "subject", "query", "list"] v with
  | [sender, recipient, subject, query, list] =>
    return ⟨← fieldOr "" text? sender, ← fieldOr "" text? recipient, ← fieldOr "" text? subject,
      ← fieldOr "" text? query, ← fieldOr "" text? list⟩
  | _ => none

/-- An action in JSON. -/
def Action.ofJson? (v : Json) : Option Action := do
  match ← fields? ["addLabelIds", "removeLabelIds", "forward"] v with
  | [add, remove, forward] =>
    return ⟨← fieldOr [] (list? text?) add, ← fieldOr [] (list? text?) remove,
      ← fieldOr "" text? forward⟩
  | _ => none

/-- A filter in JSON. -/
def ofJson? (v : Json) : Option Filter := do
  match ← fields? ["id", "name", "criteria", "action"] v with
  | [id, name, criteria, action] =>
    return ⟨← fieldOr "" text? id, ← fieldOr "" text? name,
      ← fieldOr Criteria.empty Criteria.ofJson? criteria, ← fieldOr Action.empty Action.ofJson? action⟩
  | _ => none

/-- A label in JSON. -/
def Label.ofJson? (v : Json) : Option Label := do
  match ← fields? ["id", "name", "type"] v with
  | [id, name, kind] => return ⟨← fieldOr "" text? id, ← fieldOr "" text? name, ← fieldOr "" text? kind⟩
  | _ => none

/-- An export in JSON. -/
def Export.ofJson? (v : Json) : Option Export := do
  match ← fields? ["filters", "labels"] v with
  | [filters, labels] =>
    return ⟨← fieldOr [] (list? Filter.ofJson?) filters, ← fieldOr [] (list? Label.ofJson?) labels⟩
  | _ => none

/-- A text that is written unless it is empty. -/
def textUnlessEmpty (s : String) : Option Json :=
  if s = "" then none else some (.string s)

/-- A list of texts that is written unless it is empty. -/
def textsUnlessEmpty (items : List String) : Option Json :=
  if items = [] then none else some (Json.texts items)

/-- Criteria as JSON. -/
def Criteria.toJson (c : Criteria) : Json :=
  Json.objectOf [("from", textUnlessEmpty c.sender), ("to", textUnlessEmpty c.recipient),
    ("subject", textUnlessEmpty c.subject), ("query", textUnlessEmpty c.query),
    ("list", textUnlessEmpty c.list)]

/-- An action as JSON. -/
def Action.toJson (a : Action) : Json :=
  Json.objectOf [("addLabelIds", textsUnlessEmpty a.addLabels),
    ("removeLabelIds", textsUnlessEmpty a.removeLabels), ("forward", textUnlessEmpty a.forward)]

/-- A filter as JSON. -/
def toJson (f : Filter) : Json :=
  Json.objectOf [("id", textUnlessEmpty f.id), ("name", textUnlessEmpty f.name),
    ("criteria", some f.criteria.toJson), ("action", some f.action.toJson)]

/-- A label as JSON. -/
def Label.toJson (l : Label) : Json :=
  .object [("id", .string l.id), ("name", .string l.name), ("type", .string l.kind)]

/-- An export as JSON. -/
def Export.toJson (e : Export) : Json :=
  .object [("filters", .array (e.filters.map Filter.toJson)),
    ("labels", .array (e.labels.map Label.toJson))]

end Filter

end InboxAudit
