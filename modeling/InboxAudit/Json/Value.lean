/-!
# JSON values

A JSON document keeps the order and the repetition of an object's keys. A string or key that is
well formed but names no text (undecodable bytes, half of a surrogate pair) makes its value
`unreadable`: it may be skipped, never used.
-/

namespace InboxAudit
set_option autoImplicit false

/-- A number as written: an integer, or the literal of anything else (a fraction, an exponent,
a negative zero). -/
inductive Json.Number where
  | integer (value : Int)
  | decimal (literal : String)
  deriving Repr, DecidableEq

/-- A JSON document. -/
inductive Json where
  | null
  | bool (value : Bool)
  | number (value : Json.Number)
  | string (text : String)
  | array (items : List Json)
  | object (members : List (String × Json))
  | unreadable
  deriving Repr, Inhabited

namespace Json

/-- A natural number. -/
def nat (n : Nat) : Json := .number (.integer n)

/-- A list of texts. -/
def texts (items : List String) : Json := .array (items.map .string)

/-- A list of key and value pairs without those that hold nothing. -/
def objectOf (members : List (String × Option Json)) : Json :=
  .object (members.filterMap fun m => m.2.map (m.1, ·))

/-- The value of a key, the last one where the key is repeated. -/
def member? (key : String) : Json → Option Json
  | .object members => (members.reverse.find? (·.1 = key)).map (·.2)
  | _ => none

mutual

/-- How deep arrays and objects are nested. -/
def depth : Json → Nat
  | .array items => depthItems items + 1
  | .object members => depthMembers members + 1
  | _ => 0

/-- The greatest depth of some items. -/
def depthItems : List Json → Nat
  | [] => 0
  | item :: rest => max (depth item) (depthItems rest)

/-- The greatest depth of some members. -/
def depthMembers : List (String × Json) → Nat
  | [] => 0
  | (_, value) :: rest => max (depth value) (depthMembers rest)

end

end Json

end InboxAudit
