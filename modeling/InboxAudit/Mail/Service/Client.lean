import InboxAudit.Http.Network
import InboxAudit.Http.Target
import InboxAudit.Json.Reader
import InboxAudit.Mail.ApiFailure
import InboxAudit.Mail.LabelCatalog
import InboxAudit.Mail.Retry
import InboxAudit.Mail.Service.Resource
import InboxAudit.Text.Utf8

/-!
# Calls to the mail service

The mailbox of the user as a service on a network. A call is one request and the reading of its
answer; it is given up after thirty seconds, and made again up to three times where it failed for a
transient reason. Many messages are changed in batches of a thousand, one call each, in order; the
first batch that fails for good ends the change.
-/

namespace InboxAudit.Mail.Service
set_option autoImplicit false

open InboxAudit.Http (Network Request Response)

variable {m : Type → Type} [Monad m] {α : Type}

/-- A request and what its answer says. -/
structure Call (α : Type) where
  request : Request
  read : List UInt8 → Except MailboxError α

/-- The seconds after which a call is given up. -/
def timeLimit : Nat := 30

/-- How often a call is made again. -/
def maxRetries : Nat := 3

/-- The failure that an answer without success reports: the body explains it where it is JSON. -/
def refusal (status : Nat) (headers : List (String × String)) (body : List UInt8) : ApiFailure :=
  match (Json.read (Text.ofUtf8 body).toList).bind Json.canonical? with
  | some explanation => .explained explanation
  | none => .status status headers

/-- What a response means for a call. -/
def Call.conclude (c : Call α) : Response → Except MailboxError α
  | .answer status headers body =>
    if 200 ≤ status ∧ status ≤ 299 then c.read body
    else .error (refusal status headers body).toError
  | .silence => .error (ApiFailure.timeout timeLimit).toError
  | .unreachable => .error (ApiFailure.connection "client error (Connect)").toError

/-- A call made once. -/
def Call.once (c : Call α) (net : Network m) : m (Except MailboxError α) := do
  let response ← net.send c.request
  match response with
  | .silence => net.wait timeLimit
  | _ => pure ()
  return c.conclude response

/-- A call, made again while it fails for transient reasons. -/
def Call.run (c : Call α) (net : Network m) : m (Except MailboxError α) :=
  retry (c.once net) net.wait maxRetries

/-- The value of a body that holds a resource. -/
def readResource (read : Nat → Json → Option α) (body : List UInt8) : Except MailboxError α :=
  match (Json.read (Text.ofUtf8 body).toList).bind (read nesting) with
  | some value => .ok value
  | none => .error ApiFailure.undecodable.toError

/-- A target below the mailbox of the user. -/
def mailboxTarget (path : String) (parameters : List (String × String)) : String :=
  Http.target ("/gmail/v1/users/me/" ++ path) parameters

/-- The address of the owner. -/
def profileAddress : Call String where
  request := ⟨.get, mailboxTarget "profile" [("alt", "json")], none⟩
  read body := do
    match ← readResource profile? body with
    | some address => return address
    | none => .error (.api "Profile has no email address")

/-- All labels. -/
def listLabels : Call LabelCatalog where
  request := ⟨.get, mailboxTarget "labels" [("alt", "json")], none⟩
  read body := return LabelCatalog.ofList (← readResource labels? body)

/-- The page with a token of the messages that match a query. -/
def listMessages (query token : String) (size : Nat) : Call ListPage where
  request :=
    ⟨.get, mailboxTarget "messages" ([("q", query)] ++
      (if token = "" then [] else [("pageToken", token)]) ++
      [("maxResults", toString size), ("alt", "json")]), none⟩
  read := readResource listPage?

/-- Labels and headers of one message. -/
def getMetadata (id : MessageId) (headers : List String) : Call Message where
  request :=
    ⟨.get, mailboxTarget ("messages/" ++ id) (headers.map (("metadataHeaders", ·)) ++
      [("format", "metadata"), ("alt", "json")]), none⟩
  read body := do
    let m ← readResource message? body
    match m.id with
    | some id => return Message.ofHeaders id m.labels m.headers
    | none => .error (.invalidMessage "Missing message ID")

/-- A new label. -/
def createLabel (name : String) : Call LabelId where
  request :=
    ⟨.post, mailboxTarget "labels" [("alt", "json")], some (.object [
      ("labelListVisibility", .string "labelShow"), ("messageListVisibility", .string "show"),
      ("name", .string name)])⟩
  read body := do
    match ← readResource label? body with
    | (some id, _) => return id
    | (none, _) => .error (.label ("Created label " ++ name ++ " has no id"))

/-- A change of the labels of one batch of messages; the answer is not looked at. -/
def modifyBatch (change : LabelChange) (ids : List MessageId) : Call Unit where
  request :=
    ⟨.post, mailboxTarget "messages/batchModify" [], some (Json.objectOf [
      ("addLabelIds", if change.add = [] then none else some (Json.texts change.add)),
      ("ids", some (Json.texts ids)),
      ("removeLabelIds", if change.remove = [] then none else some (Json.texts change.remove))])⟩
  read _ := .ok ()

/-- The messages that one call may change. -/
def batchSize : Nat := 1000

/-- The list in pieces of `size` items, the last of which may be shorter. -/
def batches (size : Nat) (positive : 0 < size) : List α → List (List α)
  | [] => []
  | item :: rest => (item :: rest).take size :: batches size positive ((item :: rest).drop size)
termination_by items => items.length
decreasing_by
  simp only [List.length_drop, List.length_cons]
  omega

/-- The change of some batches in order, up to the first that fails. -/
def modifyBatches (net : Network m) (change : LabelChange) :
    List (List MessageId) → m (Except MailboxError Unit)
  | [] => return .ok ()
  | batch :: rest => do
    match ← (modifyBatch change batch).run net with
    | .ok () => modifyBatches net change rest
    | .error e => return .error e

/-- The change of the labels of some messages, and how many it was sent for. -/
def modify (net : Network m) (ids : List MessageId) (change : LabelChange) :
    m (Except MailboxError Nat) := do
  if ids.isEmpty || change.isEmpty then return .ok 0
  let done ← modifyBatches net change (batches batchSize (by decide) ids)
  return done.map fun _ => ids.length

end InboxAudit.Mail.Service
