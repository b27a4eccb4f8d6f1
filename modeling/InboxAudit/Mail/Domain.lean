import InboxAudit.Mail.Address
import InboxAudit.Text.LowerCase

/-!
# Sender domains

The domain of a sender is the part of an address after its last `@`, in lower case, without
dots and spaces at its ends. A header that is no address list is read as one address.
-/

namespace InboxAudit.Mail
set_option autoImplicit false

open InboxAudit.Text

/-- What is trimmed off a domain. -/
def isDomainEdge (c : Char) : Bool := c = '.' || c = ' '

/-- The text after the last occurrence of a character, if there is one. -/
def afterLast? (mark : Char) (s : List Char) : Option (List Char) :=
  if mark ∈ s then some (s.reverse.takeWhile (· ≠ mark)).reverse else none

/-- The domain of one address, empty without `@`. -/
def addressDomain (address : List Char) : List Char :=
  match afterLast? '@' (lowerCase (strip address)) with
  | some domain => trim isDomainEdge domain
  | none => []

/-- The sender domain of a header: that of the first address that has one, else empty. -/
def domainOf (header : List Char) : List Char :=
  let header := strip header
  if header = [] then []
  else
    match AddressList.parse header with
    | none => addressDomain header
    | some addresses => ((addresses.map addressDomain).find? (· ≠ [])).getD []

/-- The sender domain of a header. -/
def senderDomain (header : String) : String :=
  String.ofList (domainOf header.toList)

end InboxAudit.Mail
