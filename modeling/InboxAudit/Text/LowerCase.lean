import InboxAudit.Text.Blank
import InboxAudit.Text.CaseTable

/-!
# Lower case

`lowerCase` is the full lower-casing of Unicode: each letter goes to its lower-case form, the
dotted capital I to two characters, and a capital sigma to `ς` where it ends a word and to `σ`
elsewhere. The sigma is the only letter whose form depends on its neighbours.
-/

namespace InboxAudit.Text
set_option autoImplicit false

/-- A letter with a case, seen once marks and mid-word punctuation are passed over. -/
def isCased (c : Char) : Bool :=
  inRanges casedRanges c.toNat

/-- A mark or mid-word punctuation, passed over in the search for a cased letter. -/
def isCaseIgnorable (c : Char) : Bool :=
  inRanges caseIgnorableRanges c.toNat

/-- The first character that is not passed over is a cased letter. -/
def startsCased (s : List Char) : Bool :=
  match s.dropWhile isCaseIgnorable with
  | [] => false
  | c :: _ => isCased c

/-- The lower-case form of one character, whatever its neighbours. -/
def lowerChar (c : Char) : List Char :=
  if c.toNat < 0x80 then [c.toLower]
  else if c = 'İ' then ['i', '\u0307']
  else
    match lowerCaseRanges.find? (·.holds c.toNat) with
    | some range => [Char.ofNat (Int.ofNat c.toNat + range.offset).toNat]
    | none => [c]

/-- The lower-case form of a character between the reversed text before it and the text after
it: a capital sigma ends a word when a cased letter stands before it and none after. -/
def lowerAt (before : List Char) (c : Char) (rest : List Char) : List Char :=
  if c = 'Σ' then
    if startsCased before && !startsCased rest then ['ς'] else ['σ']
  else lowerChar c

/-- The lower-case form of a text that follows `before` (reversed). -/
def lowerAfter (before : List Char) : List Char → List Char
  | [] => []
  | c :: rest => lowerAt before c rest ++ lowerAfter (c :: before) rest

/-- The lower-case form of a text. -/
def lowerCase (s : List Char) : List Char :=
  lowerAfter [] s

end InboxAudit.Text
