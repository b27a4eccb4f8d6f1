import InboxAudit.Text.LowerCase

/-!
# Candidates of a criterion

A criterion on the sender, the recipient or the subject lists candidates: a message meets it when
the header contains one of them. Candidates stand between white space, commas, semicolons and
bars; quotes and parentheses around one and the word `or` are decoration.
-/

namespace InboxAudit.Filter.Candidates
set_option autoImplicit false

open InboxAudit.Text

/-- A character between candidates. -/
def isSeparator (c : Char) : Bool := isBlank c || c = ',' || c = ';' || c = '|'

/-- A character that decorates the ends of a candidate. -/
def isWrapper (c : Char) : Bool := c = '"' || c = '\x27' || c = '(' || c = ')'

/-- The word `or` in any case. -/
def isOr (s : List Char) : Bool := sameAsciiCase s ['o', 'r']

/-- One part of a criterion without decoration, in lower case. -/
def clean (part : List Char) : List Char := lowerCase (trim isWrapper part)

/-- The candidates of a criterion in order. -/
def split (raw : List Char) : List (List Char) :=
  ((pieces isSeparator raw).map clean).filter fun c => c ≠ [] && !isOr c

/-- The candidates of a criterion in order. -/
def ofText (raw : String) : List String :=
  (split raw.toList).map String.ofList

end InboxAudit.Filter.Candidates
