import InboxAudit.Collections.Table
import InboxAudit.Text.Blank

/-!
# Sampled messages

A message of the sample is its identifier, its labels and the headers that were asked for. Header
names are looked up without regard to the case of ASCII letters; a header that is not there reads
as the empty text. The headers have no order of their own: the list has them in the order in which they
happen to be gone through. It shows only where the name is not there as written, but more than once in
another case.
-/

namespace InboxAudit.Mail
set_option autoImplicit false

/-- The identifier of a message, of no inner structure. -/
abbrev MessageId := String

/-- The identifier of a label, of no inner structure. -/
abbrev LabelId := String

/-- What the sample holds of one message. -/
structure Message where
  id : MessageId
  labels : List LabelId
  headers : Table String
  deriving Repr, DecidableEq

/-- The message with the given headers, a later one in place of an earlier one of the same name. -/
def Message.ofHeaders (id : MessageId) (labels : List LabelId) (headers : List (String × String)) :
    Message :=
  ⟨id, labels, Table.ofEntries headers⟩

/-- The value of a header: the name as written first, then the first one in any case. -/
def Message.header (m : Message) (name : String) : String :=
  match m.headers.get? name with
  | some value => value
  | none =>
    match m.headers.find? fun h => Text.sameAsciiCase h.1.toList name.toList with
    | some h => h.2
    | none => ""

/-- The headers that are fetched when none are configured. -/
def defaultHeaders : List String :=
  ["From", "To", "Subject", "List-Id", "Auto-Submitted", "Precedence"]

/-- One page of a listing; the token of the next page is empty on the last one. -/
structure ListPage where
  ids : List MessageId
  next : String
  deriving Repr, DecidableEq

/-- Labels to put on messages and to take off them. -/
structure LabelChange where
  add : List LabelId
  remove : List LabelId
  deriving Repr, DecidableEq

/-- The change changes nothing. -/
def LabelChange.isEmpty (change : LabelChange) : Bool :=
  change.add.isEmpty && change.remove.isEmpty

end InboxAudit.Mail
