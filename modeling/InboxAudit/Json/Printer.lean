import InboxAudit.Json.Value

/-!
# Writing JSON

Two layouts of the same document: `compact` on one line, and `pretty` with one item or member a
line, two spaces a level. Both write an empty array as `[]`, an empty object as two braces, and escape only
the quote, the backslash and the control characters below U+0020.
-/

namespace InboxAudit.Json
set_option autoImplicit false

/-- One hexadecimal digit in lower case. -/
def hexChar (n : Nat) : Char :=
  if n < 10 then Char.ofNat (48 + n) else Char.ofNat (87 + n)

/-- A character as it stands inside a string. -/
def escapeChar (c : Char) : List Char :=
  if c = '"' then ['\\', '"']
  else if c = '\\' then ['\\', '\\']
  else if c = '\n' then ['\\', 'n']
  else if c = '\r' then ['\\', 'r']
  else if c = '\t' then ['\\', 't']
  else if c = '\x08' then ['\\', 'b']
  else if c = '\x0c' then ['\\', 'f']
  else if c.toNat < 0x20 then ['\\', 'u', '0', '0', hexChar (c.toNat / 16), hexChar (c.toNat % 16)]
  else [c]

/-- A text in quotes. -/
def quote (s : List Char) : List Char :=
  '"' :: (s.flatMap escapeChar ++ ['"'])

/-- A number as it was written. -/
def Number.print : Number → List Char
  | .integer n => (toString n).toList
  | .decimal literal => literal.toList

/-- Values that hold no other value. -/
def printLeaf : Json → List Char
  | .bool true => "true".toList
  | .bool false => "false".toList
  | .number n => n.print
  | .string text => quote text.toList
  | _ => "null".toList

mutual

/-- A document on one line. -/
def compact : Json → List Char
  | .array items => '[' :: (compactItems items ++ [']'])
  | .object members => '{' :: (compactMembers members ++ ['}'])
  | v => printLeaf v

/-- Items with commas between them. -/
def compactItems : List Json → List Char
  | [] => []
  | [item] => compact item
  | item :: rest => compact item ++ ',' :: compactItems rest

/-- Members with commas between them. -/
def compactMembers : List (String × Json) → List Char
  | [] => []
  | [(key, value)] => quote key.toList ++ ':' :: compact value
  | (key, value) :: rest => quote key.toList ++ ':' :: (compact value ++ ',' :: compactMembers rest)

end

/-- A line break and the indentation of a level. -/
def newLine (level : Nat) : List Char :=
  '\n' :: List.replicate (2 * level) ' '

mutual

/-- A document with one item or member a line, itself at the given level. -/
def pretty (level : Nat) : Json → List Char
  | .array [] => ['[', ']']
  | .array items => '[' :: (prettyItems (level + 1) items ++ newLine level ++ [']'])
  | .object [] => ['{', '}']
  | .object members => '{' :: (prettyMembers (level + 1) members ++ newLine level ++ ['}'])
  | v => printLeaf v

/-- Items, each on its own line. -/
def prettyItems (level : Nat) : List Json → List Char
  | [] => []
  | [item] => newLine level ++ pretty level item
  | item :: rest => newLine level ++ pretty level item ++ ',' :: prettyItems level rest

/-- Members, each on its own line. -/
def prettyMembers (level : Nat) : List (String × Json) → List Char
  | [] => []
  | [(key, value)] => newLine level ++ quote key.toList ++ ':' :: ' ' :: pretty level value
  | (key, value) :: rest =>
    newLine level ++ quote key.toList ++ ':' :: ' ' :: (pretty level value ++ ',' :: prettyMembers level rest)

end

end InboxAudit.Json
