import InboxAudit.Json.Value
import InboxAudit.Numbers.Width

/-!
# Records in JSON

A record is an object with known keys, or an array of its fields in their declared order. Keys
that are not declared are skipped, a declared key may stand only once, and an array may stop
early but not run over. Nothing is converted: a text is a string, a count is an integer.
-/

namespace InboxAudit.Json
set_option autoImplicit false

variable {α : Type}

/-- What stands under one declared key; nothing is returned for a key that is repeated. -/
def single? (members : List (String × Json)) (name : String) : Option (Option Json) :=
  match members.filter (·.1 = name) with
  | [] => some none
  | [member] => some (some member.2)
  | _ => none

/-- The declared fields of a record, in their declared order. -/
def fields? (names : List String) : Json → Option (List (Option Json))
  | .object members => names.mapM (single? members)
  | .array items =>
    if items.length ≤ names.length then
      some (items.map some ++ List.replicate (names.length - items.length) none)
    else none
  | _ => none

/-- The declared fields of a record that names all of them where it is an array. -/
def allFields? (names : List String) : Json → Option (List (Option Json))
  | .array items => if items.length = names.length then some (items.map some) else none
  | v => fields? names v

/-- A field that has a value when it is left out. -/
def fieldOr (default : α) (read : Json → Option α) : Option Json → Option α
  | none => some default
  | some v => read v

/-- A field that must be there. -/
def field (read : Json → Option α) : Option Json → Option α
  | none => none
  | some v => read v

/-- A text. -/
def text? : Json → Option String
  | .string text => some text
  | _ => none

/-- A truth value. -/
def bool? : Json → Option Bool
  | .bool value => some value
  | _ => none

/-- A natural number below a limit. -/
def natBelow? (limit : Nat) : Json → Option Nat
  | .number (.integer n) => if 0 ≤ n ∧ n < limit then some n.toNat else none
  | _ => none

/-- A natural number of 32 bits. -/
def nat32? : Json → Option Nat := natBelow? (Numbers.bound 32)

/-- A natural number of 64 bits. -/
def nat64? : Json → Option Nat := natBelow? (Numbers.bound 64)

/-- An integer of some bits, one of them for the sign. -/
def int? (bits : Nat) : Json → Option Int
  | .number (.integer n) => if Numbers.isSigned bits n then some n else none
  | _ => none

/-- An array whose items are all of one kind. -/
def list? (read : Json → Option α) : Json → Option (List α)
  | .array items => items.mapM read
  | _ => none

/-- A value or null. -/
def optional? (read : Json → Option α) : Json → Option (Option α)
  | .null => some none
  | v => (read v).map some

end InboxAudit.Json
