import InboxAudit.Text.Blank

/-!
# Address lists

The address list of a header: addresses between commas, each bare or in angle brackets after a
name, with comments in parentheses, and groups `name: address, …;`. A reader that goes over the
header one character at a time (`step`) collects the bare addresses, those of groups included.
White space is a character like any other outside the places where an address may begin or
has ended. An address without `@` spoils the whole list.
-/

namespace InboxAudit.Mail.AddressList
set_option autoImplicit false

open InboxAudit.Text (isBlank trimEnd)

/-- Where the reader stands. Texts under way are reversed. -/
inductive Place where
  /-- Before an address. -/
  | start
  /-- Right after the colon that opens a group. -/
  | groupStart
  /-- Inside a quoted name. -/
  | quoted
  /-- After a backslash in a quoted name. -/
  | escaped
  /-- After a quoted name. -/
  | named
  /-- Inside angle brackets. -/
  | bracket (address : List Char)
  /-- After the closing angle bracket. -/
  | closed
  /-- In a comment after the closing angle bracket. -/
  | closedComment
  /-- In a bare address, or in the name before an angle bracket. -/
  | bare (address : List Char)
  /-- In a comment inside a bare address. -/
  | bareComment (address : List Char)
  deriving Repr, DecidableEq

/-- The reader: its place, whether a group is open, and the finished addresses, latest first. -/
structure State where
  place : Place
  inGroup : Bool
  found : List (List Char)
  deriving Repr, DecidableEq

/-- The reader before the first character. -/
def State.initial : State := ⟨.start, false, []⟩

/-- The reader after one more address (reversed), if that is one. -/
def State.finish (s : State) (address : List Char) : Option State :=
  if '@' ∈ address then some { s with found := address.reverse :: s.found } else none

/-- The reader at another place. -/
def State.at (s : State) (place : Place) : State := { s with place := place }

/-- A semicolon after an address closes the group; outside of one it is a comma. -/
def State.semicolon (s : State) : State := { s with place := .start, inGroup := false }

/-- A colon after a name opens a group; groups do not nest. -/
def State.colon (s : State) : Option State :=
  if s.inGroup then none else some { s with place := .groupStart, inGroup := true }

/-- A bare address (reversed) without the white space after it. -/
def trimBare (address : List Char) : List Char := address.dropWhile isBlank

/-- One character where an address may begin. -/
def State.begin (s : State) (c : Char) : Option State :=
  if isBlank c then some (s.at .start)
  else if c = '"' then some (s.at .quoted)
  else if c = '<' then some (s.at (.bracket []))
  else if c = ';' then if s.inGroup then some s.semicolon else none
  else some (s.at (.bare [c]))

/-- One character of the header. -/
def step (s : State) (c : Char) : Option State :=
  match s.place with
  | .start => s.begin c
  | .groupStart => s.begin c
  | .quoted =>
    if c = '\\' then some (s.at .escaped)
    else if c = '"' then some (s.at .named)
    else some s
  | .escaped => some (s.at .quoted)
  | .named =>
    if c = '<' then some (s.at (.bracket []))
    else if c = ':' then s.colon
    else if c = '"' then some (s.at .quoted)
    else some s
  | .bracket address =>
    if c = '>' then (s.finish address).map (·.at .closed)
    else some (s.at (.bracket (c :: address)))
  | .closed =>
    if isBlank c then some s
    else if c = ',' then some (s.at .start)
    else if c = ';' then some s.semicolon
    else if c = '(' then some (s.at .closedComment)
    else none
  | .closedComment => if c = ')' then some (s.at .closed) else some s
  | .bare address =>
    if c = '<' then some (s.at (.bracket []))
    else if c = ',' then (s.finish (trimBare address)).map (·.at .start)
    else if c = ';' then (s.finish (trimBare address)).map (·.semicolon)
    else if c = ':' then s.colon
    else if c = '(' then some (s.at (.bareComment address))
    else some (s.at (.bare (c :: address)))
  | .bareComment address => if c = ')' then some (s.at (.bare address)) else some s

/-- The addresses at the end of the header. A group must be closed, unless nothing follows its
colon. -/
def State.result (s : State) : Option (List (List Char)) :=
  match s.place with
  | .groupStart => some s.found.reverse
  | .start | .closed => if s.inGroup then none else some s.found.reverse
  | .bare address =>
    if s.inGroup then none else (s.finish (trimBare address)).map (·.found.reverse)
  | _ => none

/-- The addresses of a header in order, if it is an address list. -/
def parse (header : List Char) : Option (List (List Char)) :=
  (header.foldlM step State.initial).bind State.result

end InboxAudit.Mail.AddressList
