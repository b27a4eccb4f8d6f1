import InboxAudit.Numbers.Width

/-!
# TOML values

The values of a TOML document. Of numbers with fractions and of dates and times only the text is
kept. Tables keep the order of their keys.
-/

namespace InboxAudit
set_option autoImplicit false

/-- A TOML value; a document is a table. -/
inductive Toml where
  | string (text : String)
  | integer (value : Int)
  | boolean (value : Bool)
  | float (literal : String)
  | time (literal : String)
  | array (items : List Toml)
  | table (entries : List (String × Toml))
  deriving Repr, Inhabited

namespace Toml

/-- The integers that a document can hold: those of 64 bits with a sign. -/
def isInteger (n : Int) : Bool := Numbers.isSigned 64 n

end Toml

end InboxAudit
