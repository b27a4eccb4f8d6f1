import InboxAudit.Mail.Message
import InboxAudit.Mail.ListId

/-!
# Matchers

A matcher is a test of one header. A text matcher holds when the header, in lower case, contains
one of its candidates; a list matcher holds when the identifier that the `List-Id` header names
contains the identifier looked for (so `example.com` also accepts `alerts.example.com`).
-/

namespace InboxAudit.Filter
set_option autoImplicit false

open InboxAudit.Mail (Message)

/-- A header that is searched for candidates. -/
inductive Field where
  | sender
  | recipient
  | subject
  deriving Repr, DecidableEq

/-- The name of the header. -/
def Field.header : Field → String
  | .sender => "From"
  | .recipient => "To"
  | .subject => "Subject"

/-- The word for the field in queries. -/
def Field.keyword : Field → String
  | .sender => "from"
  | .recipient => "to"
  | .subject => "subject"

/-- The field of a word. -/
def Field.ofKeyword? (word : String) : Option Field :=
  [Field.sender, .recipient, .subject].find? (·.keyword = word)

/-- A test of one header. Candidates and identifiers are in their compared form already. -/
inductive Matcher where
  | text (field : Field) (candidates : List String)
  | list (id : String)
  deriving Repr, DecidableEq

/-- The text contains the needle. -/
def contains (s needle : String) : Bool :=
  Text.occursIn needle.toList s.toList

/-- The test holds for the message. -/
def Matcher.holds (m : Matcher) (message : Message) : Bool :=
  match m with
  | .text field candidates =>
    let header := String.ofList (Text.lowerCase (message.header field.header).toList)
    candidates.any (contains header)
  | .list id => contains (Mail.listId (message.header "List-Id")) id

/-- All tests hold for the message. -/
def holdsAll (matchers : List Matcher) (message : Message) : Bool :=
  matchers.all (·.holds message)

end InboxAudit.Filter
