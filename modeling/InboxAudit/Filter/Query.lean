import InboxAudit.Filter.Candidates
import InboxAudit.Filter.Matcher

/-!
# Queries

The part of the search language that can be replayed on headers: words of the form `from:`, `to:`,
`subject:` or `list:` with a value, all of which must hold. The word `or` is passed over. The first
word outside of this language says why a query cannot be replayed.
-/

namespace InboxAudit.Filter
set_option autoImplicit false

open InboxAudit.Text

/-- Why a rule cannot be replayed. -/
inductive NotReplayable where
  /-- No criterion gave a matcher. -/
  | noMatchers
  /-- A word of the query is negated. -/
  | negated (word : String)
  /-- A word of the query is outside the language. -/
  | unsupported (word : String)
  deriving Repr, DecidableEq

/-- The reason in words. -/
def NotReplayable.message : NotReplayable → String
  | .noMatchers => "no replayable criteria"
  | .negated word => "negated query token " ++ word
  | .unsupported word => "unsupported query token " ++ word

namespace Query

/-- The words of a query without their decoration, the word `or` left out. -/
def queryWords (query : List Char) : List (List Char) :=
  ((words query).map (trim Candidates.isWrapper)).filter fun w => w ≠ [] && !Candidates.isOr w

/-- The list test for an identifier, unless it is empty. -/
def listMatcher? (raw : String) : Option Matcher :=
  let id := Mail.listId raw
  if id = "" then none else some (.list id)

/-- The text test for the candidates of a criterion, unless there are none. -/
def textMatcher? (field : Field) (raw : String) : Option Matcher :=
  let candidates := Candidates.ofText raw
  if candidates = [] then none else some (.text field candidates)

/-- The matcher of one word `keyword:value`; the case of the keyword does not matter. -/
def wordMatcher? (word : List Char) : Option Matcher := do
  let (key, value) ← splitFirst? (· = ':') word
  let keyword := String.ofList (key.map Char.toLower)
  let raw := String.ofList value
  if keyword = "list" then listMatcher? raw
  else textMatcher? (← Field.ofKeyword? keyword) raw

/-- The matcher of one word, or why there is none. -/
def readWord (word : List Char) : Except NotReplayable Matcher :=
  if word.head? = some '-' then .error (.negated (String.ofList word))
  else
    match wordMatcher? word with
    | some m => .ok m
    | none => .error (.unsupported (String.ofList word))

/-- The matchers of a query in order, or why it cannot be replayed. -/
def parse (query : String) : Except NotReplayable (List Matcher) :=
  match queryWords query.toList with
  | [] => .error (.unsupported (String.ofList (strip query.toList)))
  | ws => ws.mapM readWord

end Query

end InboxAudit.Filter
