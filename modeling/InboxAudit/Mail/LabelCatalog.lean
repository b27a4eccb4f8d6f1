import InboxAudit.Collections.Table
import InboxAudit.Mail.Message

/-!
# The label catalog

The labels that exist in the mailbox, indexed by identifier and by name. A label with an empty
identifier or name is not recorded. A label that is recorded again under another name keeps its
old name in the index by name.
-/

namespace InboxAudit.Mail
set_option autoImplicit false

/-- The two indexes of the labels. -/
structure LabelCatalog where
  byName : Table LabelId
  byId : Table String
  deriving Repr, DecidableEq

namespace LabelCatalog

/-- No labels. -/
def empty : LabelCatalog := ⟨[], []⟩

/-- The catalog with one more label. -/
def insert (c : LabelCatalog) (id : LabelId) (name : String) : LabelCatalog :=
  if id = "" ∨ name = "" then c else ⟨c.byName.put name id, c.byId.put id name⟩

/-- The catalog of some labels, recorded in order. -/
def ofList (labels : List (LabelId × String)) : LabelCatalog :=
  labels.foldl (fun c label => c.insert label.1 label.2) empty

/-- Some label is recorded under the name. -/
def containsName (c : LabelCatalog) (name : String) : Bool := c.byName.hasKey name

/-- The name of a label. -/
def nameOf (c : LabelCatalog) (id : LabelId) : Option String := c.byId.get? id

/-- The label recorded under a name. -/
def idOf (c : LabelCatalog) (name : String) : Option LabelId := c.byName.get? name

/-- The number of labels. -/
def size (c : LabelCatalog) : Nat := c.byId.length

/-- No label is recorded. -/
def isEmpty (c : LabelCatalog) : Bool := c.byId.isEmpty

end LabelCatalog

end InboxAudit.Mail
