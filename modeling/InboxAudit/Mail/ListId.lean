import InboxAudit.Text.LowerCase

/-!
# List identifiers

A `List-Id` header and a list criterion are compared in one form: without angle brackets and
white space around it, without quotes and spaces around what is left, in lower case.
-/

namespace InboxAudit.Mail.ListId
set_option autoImplicit false

open InboxAudit.Text

/-- An opening angle bracket or white space. -/
def isOpening (c : Char) : Bool := c = '<' || isBlank c

/-- A closing angle bracket or white space. -/
def isClosing (c : Char) : Bool := c = '>' || isBlank c

/-- A double quote or a space. -/
def isQuote (c : Char) : Bool := c = '"' || c = ' '

/-- The text without one leading opening bracket. -/
def dropOpening : List Char → List Char
  | '<' :: rest => rest
  | s => s

/-- The text without one trailing closing bracket. -/
def dropClosing (s : List Char) : List Char :=
  match s.reverse with
  | '>' :: rest => rest.reverse
  | _ => s

/-- The text between angle brackets and white space. A text that spans lines even then keeps all
but one bracket at each end. -/
def unwrap (s : List Char) : List Char :=
  let inner := trimEnd isClosing (trimStart isOpening s)
  if '\n' ∈ inner then dropOpening (dropClosing s) else inner

/-- The form in which list identifiers are compared. -/
def normalize (raw : List Char) : List Char :=
  lowerCase (trim isQuote (unwrap (strip raw)))

end InboxAudit.Mail.ListId

namespace InboxAudit.Mail

/-- The identifier that a `List-Id` header or a list criterion names, empty if it names none. -/
def listId (raw : String) : String :=
  String.ofList (ListId.normalize raw.toList)

end InboxAudit.Mail
