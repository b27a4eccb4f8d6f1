import InboxAudit.Json.Record
import InboxAudit.Mail.Message
import InboxAudit.Numbers.Width
import InboxAudit.Text.Digits

/-!
# Resources of the mail service

What the mail service returns, read from JSON. Every field may be left out or be null, and unknown
fields are passed over, but a field that is there must be of its kind: whole numbers have 32 bits,
serial numbers and dates are decimal numbers in strings, raw content is base64. A resource written
as an array holds all its fields. Nesting below a resource is limited to `nesting` levels.
-/

namespace InboxAudit.Mail.Service
set_option autoImplicit false

open InboxAudit.Json (allFields? text? optional?)

variable {α : Type}

/-- The deepest nesting that is read. -/
def nesting : Nat := 127

/-- A field that may be left out or null. -/
def optionalField (read : Json → Option α) : Option Json → Option (Option α)
  | none => some none
  | some v => optional? read v

/-- The field is left out, null, or passes the check. -/
def absentOr (check : Json → Bool) : Option Json → Bool
  | none => true
  | some .null => true
  | some v => check v

/-- A string. -/
def isText (v : Json) : Bool := (text? v).isSome

/-- A whole number that passes a check. -/
def isIntegerWith (check : Int → Bool) : Json → Bool
  | .number (.integer n) => check n
  | _ => false

/-- A whole number of 32 bits. -/
def isInt32 : Json → Bool := isIntegerWith (Numbers.isSigned 32)

/-- A natural number of 32 bits. -/
def isNat32 : Json → Bool := isIntegerWith fun n => 0 ≤ n && n < (Numbers.bound 32 : Int)

/-- A decimal number below a limit in a string; a plus sign may stand before it, and a minus sign
where it is below a limit for negative numbers. -/
def isDecimalText (limit negativeLimit : Nat) : Json → Bool
  | .string s =>
    match s.toList with
    | '-' :: digits => (Text.digits? digits).any (· < negativeLimit)
    | s => (Text.natural? s).any (· < limit)
  | _ => false

/-- A serial number. -/
def isSerial : Json → Bool := isDecimalText (Numbers.bound 64) 0

/-- A date. -/
def isDate : Json → Bool := isDecimalText (Numbers.bound 63) (Numbers.bound 63 + 1)

/-- The value of a base64 digit. -/
def base64Digit? (c : Char) : Option Nat :=
  if 'A' ≤ c ∧ c ≤ 'Z' then some (c.toNat - 65)
  else if 'a' ≤ c ∧ c ≤ 'z' then some (c.toNat - 71)
  else if c.isDigit then some (c.toNat + 4)
  else if c = '+' then some 62
  else if c = '/' then some 63
  else none

/-- Groups of four base64 digits, the last of them padded, no bits to spare. -/
def isBase64Text : List Char → Bool
  | [] => true
  | [a, b, '=', '='] => (base64Digit? a).isSome && (base64Digit? b).any (· % 16 = 0)
  | [a, b, c, '='] =>
    (base64Digit? a).isSome && (base64Digit? b).isSome && (base64Digit? c).any (· % 4 = 0)
  | a :: b :: c :: d :: rest => [a, b, c, d].all (base64Digit? · |>.isSome) && isBase64Text rest
  | _ => false

/-- Raw content. -/
def isBase64 : Json → Bool
  | .string s => isBase64Text s.toList
  | _ => false

/-- Items of an array, all of one kind, `levels` more levels deep at most. -/
def items? (levels : Nat) (read : Nat → Json → Option α) : Json → Option (List α)
  | .array items =>
    match levels with
    | 0 => none
    | levels + 1 => items.mapM (read levels)
  | _ => none

/-- A resource, its fields `levels` more levels deep at most. -/
def nested? (levels : Nat) (names : List String) (v : Json) : Option (Nat × List (Option Json)) :=
  match levels with
  | 0 => none
  | levels + 1 => (allFields? names v).map (levels, ·)

/-- The string of a field. -/
def textField : Option Json → Option (Option String) := optionalField text?

/-- A list of strings. -/
def texts? (levels : Nat) : Json → Option (List String) := items? levels fun _ => text?

/-- A header of a message part: its name and value. -/
def header? (levels : Nat) (v : Json) : Option (Option String × Option String) := do
  match ← nested? levels ["name", "value"] v with
  | (_, [name, value]) => return (← textField name, ← textField value)
  | _ => none

/-- The headers of a message part that have both a name and a value. -/
def headers? (levels : Nat) (v : Json) : Option (List (String × String)) := do
  let headers ← items? levels header? v
  return headers.filterMap fun h => do return (← h.1, ← h.2)

/-- The content of a message part. -/
def isPartBody (levels : Nat) (v : Json) : Bool :=
  match nested? levels ["attachmentId", "data", "size"] v with
  | some (_, [attachment, data, size]) =>
    absentOr isText attachment && absentOr isBase64 data && absentOr isInt32 size
  | _ => false

/-- The fields of a message part. -/
def partFields : List String := ["body", "filename", "headers", "mimeType", "partId", "parts"]

/-- The fields of a message part that are not parts themselves are of their kinds. -/
def areLeafFields (levels : Nat) (body filename headers mimeType partId : Option Json) : Bool :=
  absentOr (isPartBody levels) body && absentOr isText filename &&
    absentOr (fun v => (headers? levels v).isSome) headers && absentOr isText mimeType &&
    absentOr isText partId

/-- The parts of a message part, nested `levels` levels deep at most. -/
def areParts : Nat → Json → Bool
  | levels + 2, .array parts => parts.all fun part =>
    match allFields? partFields part with
    | some [body, filename, headers, mimeType, partId, parts] =>
      areLeafFields levels body filename headers mimeType partId && absentOr (areParts levels) parts
    | _ => false
  | 1, .array parts => parts.isEmpty
  | _, _ => false

/-- The headers of the outermost part of a message. -/
def payload? (levels : Nat) (v : Json) : Option (List (String × String)) := do
  match ← nested? levels partFields v with
  | (levels, [body, filename, headers, mimeType, partId, parts]) =>
    if areLeafFields levels body filename headers mimeType partId && absentOr (areParts levels) parts then
      return (← optionalField (headers? levels) headers).getD []
    else none
  | _ => none

/-- A message as the service returns it. -/
structure MessageResource where
  id : Option String
  labels : List LabelId
  headers : List (String × String)
  deriving Repr, DecidableEq

/-- A message. -/
def message? (levels : Nat) (v : Json) : Option MessageResource := do
  match ← nested? levels ["historyId", "id", "internalDate", "labelIds", "payload", "raw",
    "sizeEstimate", "snippet", "threadId"] v with
  | (levels, [historyId, id, date, labels, payload, raw, size, snippet, thread]) =>
    if absentOr isSerial historyId && absentOr isDate date && absentOr isBase64 raw &&
        absentOr isInt32 size && absentOr isText snippet && absentOr isText thread then
      return ⟨← textField id, (← optionalField (texts? levels) labels).getD [],
        (← optionalField (payload? levels) payload).getD []⟩
    else none
  | _ => none

/-- One page of a listing: the identifiers of its messages and the token of the next page. -/
def listPage? (levels : Nat) (v : Json) : Option ListPage := do
  match ← nested? levels ["messages", "nextPageToken", "resultSizeEstimate"] v with
  | (levels, [messages, next, size]) =>
    if absentOr isNat32 size then
      let messages := (← optionalField (items? levels message?) messages).getD []
      return ⟨messages.filterMap (·.id), (← textField next).getD ""⟩
    else none
  | _ => none

/-- The colours of a label. -/
def isColor (levels : Nat) (v : Json) : Bool :=
  match nested? levels ["backgroundColor", "textColor"] v with
  | some (_, [background, foreground]) => absentOr isText background && absentOr isText foreground
  | _ => false

/-- A label: its identifier and its name. -/
def label? (levels : Nat) (v : Json) : Option (Option String × Option String) := do
  match ← nested? levels ["color", "id", "labelListVisibility", "messageListVisibility",
    "messagesTotal", "messagesUnread", "name", "threadsTotal", "threadsUnread", "type"] v with
  | (levels, [color, id, inList, inMessages, total, unread, name, threads, unreadThreads, kind]) =>
    if absentOr (isColor levels) color && absentOr isText inList && absentOr isText inMessages &&
        [total, unread, threads, unreadThreads].all (absentOr isInt32) && absentOr isText kind then
      return (← textField id, ← textField name)
    else none
  | _ => none

/-- The labels of a mailbox that have both an identifier and a name. -/
def labels? (levels : Nat) (v : Json) : Option (List (LabelId × String)) := do
  match ← nested? levels ["labels"] v with
  | (levels, [labels]) =>
    let labels := (← optionalField (items? levels label?) labels).getD []
    return labels.filterMap fun l => do return (← l.1, ← l.2)
  | _ => none

/-- The address of the owner of a mailbox. -/
def profile? (levels : Nat) (v : Json) : Option (Option String) := do
  match ← nested? levels ["emailAddress", "historyId", "messagesTotal", "threadsTotal"] v with
  | (_, [address, historyId, total, threads]) =>
    if absentOr isSerial historyId && absentOr isInt32 total && absentOr isInt32 threads then
      textField address
    else none
  | _ => none

end InboxAudit.Mail.Service
