import InboxAudit.Json.Value

/-!
# Networks

A network carries requests and lets time pass. What comes back is an answer, silence, or the news
that there is no connection. Every request may be answered in another way: a network acts in a
monad of its own.
-/

namespace InboxAudit.Http
set_option autoImplicit false

/-- What a request wants done. -/
inductive Method where
  | get
  | post
  deriving Repr, DecidableEq

/-- The name of a method. -/
def Method.name : Method → String
  | .get => "GET"
  | .post => "POST"

/-- A request. -/
structure Request where
  method : Method
  target : String
  body : Option Json

/-- What comes of a request. -/
inductive Response where
  | answer (status : Nat) (headers : List (String × String)) (body : List UInt8)
  /-- No answer, however long one waits. -/
  | silence
  /-- No connection. -/
  | unreachable

/-- A network; times are whole seconds. -/
structure Network (m : Type → Type) where
  send : Request → m Response
  wait : Nat → m Unit

/-- A network without connections. -/
def Network.unreachable {m : Type → Type} [Monad m] (wait : Nat → m Unit) : Network m where
  send _ := pure .unreachable
  wait := wait

/-- A conversation with a server that is written down: the responses still to come, the time, and
the requests so far with their times, the last one first. -/
structure Conversation where
  responses : List Response
  now : Nat
  sent : List (Nat × Request)

namespace Conversation

/-- The conversation after a request, and what came of it: the next response, or nothing found
where none is left. -/
def send (request : Request) (c : Conversation) : Response × Conversation :=
  (c.responses.headD (.answer 404 [] []),
    { c with responses := c.responses.drop 1, sent := (c.now, request) :: c.sent })

/-- The network with the one server of a conversation. -/
def network : Network (StateM Conversation) where
  send request := modifyGet (send request)
  wait seconds := modify fun c => { c with now := c.now + seconds }

end Conversation

end InboxAudit.Http
