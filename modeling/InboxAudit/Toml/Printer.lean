import InboxAudit.Toml.Value

/-!
# Writing TOML

A document of sections, each with its keys and values, and an empty line between two sections. A
list of two or more items takes a line for each. A text is written in the plainest of the four kinds
of strings that holds it: on one line before several, in quotes before apostrophes, and with escapes
only where nothing else will do.
-/

namespace InboxAudit.Toml
set_option autoImplicit false

/-- The greatest number of times that a character stands in a row; `run` is the length of the row
under way. -/
def longestRun (c : Char) (run : Nat) : List Char → Nat
  | [] => run
  | d :: rest => if d = c then longestRun c (run + 1) rest else max run (longestRun c 0 rest)

/-- A control character that no string holds without an escape. -/
def isControl (c : Char) : Bool := (c.toNat < 0x20 && c ≠ '\t' && c ≠ '\n') || c.toNat = 0x7F

/-- The kinds of strings. -/
inductive Style where
  | basic
  | literal
  | basicLines
  | literalLines
  deriving Repr, DecidableEq

/-- The kind of string in which a text is written. -/
def Style.of (s : List Char) : Style :=
  let escaped := s.contains '\\' || s.any isControl
  if !escaped && !s.contains '"' && !s.contains '\n' then .basic
  else if !s.any isControl && !s.contains '\'' && !s.contains '\n' then .literal
  else if !escaped && longestRun '"' 0 s ≤ 2 then .basicLines
  else if !s.any isControl && longestRun '\'' 0 s ≤ 2 then .literalLines
  else if s.contains '\n' then .basicLines
  else .basic

/-- A hexadecimal digit in upper case. -/
def hexChar (n : Nat) : Char := if n < 10 then Char.ofNat (48 + n) else Char.ofNat (55 + n)

/-- A character in a string with escapes, quotes and line feeds apart. -/
def escapeChar (c : Char) : List Char :=
  if c = '\\' then ['\\', '\\']
  else if c = '\x08' then ['\\', 'b']
  else if c = '\t' then ['\\', 't']
  else if c = '\x0c' then ['\\', 'f']
  else if c = '\r' then ['\\', 'r']
  else if c.toNat < 0x20 || c.toNat = 0x7F then
    ['\\', 'u', '0', '0', hexChar (c.toNat / 16), hexChar (c.toNat % 16)]
  else [c]

/-- A text inside a basic string on one line. -/
def escapeLine (s : List Char) : List Char :=
  s.flatMap fun c =>
    if c = '"' then ['\\', '"'] else if c = '\n' then ['\\', 'n'] else escapeChar c

/-- A text inside a basic string over several lines; `quotes` of them stand right before it, and the
third in a row is escaped. -/
def escapeLines (quotes : Nat) : List Char → List Char
  | [] => []
  | c :: rest =>
    if c = '"' then
      if quotes < 2 then '"' :: escapeLines (quotes + 1) rest
      else '\\' :: '"' :: escapeLines 0 rest
    else if c = '\n' then '\n' :: escapeLines 0 rest
    else escapeChar c ++ escapeLines 0 rest

/-- A text between three marks; it begins on a line of its own where it has several. -/
def betweenMarks (mark : Char) (multiline : Bool) (body : List Char) : List Char :=
  let marks := List.replicate 3 mark
  marks ++ (if multiline then ['\n'] else []) ++ body ++ marks

/-- A text as a string. -/
def printString (s : List Char) : List Char :=
  match Style.of s with
  | .basic => '"' :: (escapeLine s ++ ['"'])
  | .literal => '\'' :: (s ++ ['\''])
  | .basicLines => betweenMarks '"' (s.contains '\n') (escapeLines 0 s)
  | .literalLines => betweenMarks '\'' (s.contains '\n') s

/-- Items on lines of their own, each indented by four spaces and followed by a comma. -/
def commaLines (items : List (List Char)) : List Char :=
  items.flatMap fun item => "    ".toList ++ item ++ [',', '\n']

/-- A list of texts. -/
def printStrings (items : List String) : List Char :=
  match items with
  | [] => ['[', ']']
  | [item] => '[' :: (printString item.toList ++ [']'])
  | items => '[' :: '\n' :: (commaLines (items.map fun item => printString item.toList) ++ [']'])

/-- What a setting holds. -/
inductive Setting where
  | number (n : Nat)
  | flag (value : Bool)
  | text (s : String)
  | texts (items : List String)
  deriving Repr, DecidableEq

/-- The setting as TOML. -/
def Setting.toToml : Setting → Toml
  | .number n => .integer n
  | .flag value => .boolean value
  | .text s => .string s
  | .texts items => .array (items.map .string)

/-- A setting as text; numbers that no document can hold have none. -/
def Setting.print? : Setting → Option (List Char)
  | .number n => if isInteger n then some (toString n).toList else none
  | .flag value => some (if value then "true".toList else "false".toList)
  | .text s => some (printString s.toList)
  | .texts items => some (printStrings items)

/-- A named group of settings. -/
structure Section where
  name : String
  settings : List (String × Setting)
  deriving Repr, DecidableEq

/-- A key and its setting on a line. -/
def printSetting? (entry : String × Setting) : Option (List Char) :=
  entry.2.print?.map fun v => entry.1.toList ++ " = ".toList ++ v ++ ['\n']

/-- A section with its header. -/
def Section.print? (s : Section) : Option (List Char) :=
  (s.settings.mapM printSetting?).map fun lines =>
    '[' :: (s.name.toList ++ [']', '\n'] ++ lines.flatten)

/-- The document of some sections. -/
def print? (sections : List Section) : Option (List Char) :=
  (sections.mapM Section.print?).map fun texts => ['\n'].intercalate texts

end InboxAudit.Toml
