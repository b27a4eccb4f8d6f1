import InboxAudit.Text.Blank
import InboxAudit.Text.Digits

/-!
# Text in TOML

Space, comments and strings. Line breaks are single line feeds here: `withLineFeeds` brings a text
into this form. A basic string stands in quotes and knows escapes, a literal string stands in
apostrophes and knows none; either may go over several lines between three marks, and up to two
marks may then stand right before the closing ones.
-/

namespace InboxAudit.Toml
set_option autoImplicit false

/-- The text with a line feed for every carriage return and line feed. -/
def withLineFeeds : List Char → List Char
  | '\r' :: '\n' :: rest => '\n' :: withLineFeeds rest
  | c :: rest => c :: withLineFeeds rest
  | [] => []

/-- A space or tab. -/
def isSpace (c : Char) : Bool := c = ' ' || c = '\t'

/-- A space, tab or line feed. -/
def isBlank (c : Char) : Bool := isSpace c || c = '\n'

/-- A character that may stand for itself in comments and strings on one line. -/
def isPlain (c : Char) : Bool := c = '\t' || (0x20 ≤ c.toNat && c.toNat ≠ 0x7F)

/-- The text without leading spaces and tabs. -/
def skipSpace (s : List Char) : List Char := s.dropWhile isSpace

/-- The text without a comment at its start. -/
def skipComment : List Char → List Char
  | '#' :: rest => rest.dropWhile isPlain
  | s => s

/-- What follows the end of a line, before which there may be space and a comment. -/
def lineEnd? (s : List Char) : Option (List Char) :=
  match skipComment (skipSpace s) with
  | [] => some []
  | '\n' :: rest => some rest
  | _ => none

/-- What follows space, comments and line breaks; `inComment` says that a comment is under way. -/
def skipLines (inComment : Bool) : List Char → List Char
  | [] => []
  | c :: rest =>
    if c = '\n' then skipLines false rest
    else if inComment then (if isPlain c then skipLines true rest else c :: rest)
    else if isSpace c then skipLines false rest
    else if c = '#' then skipLines true rest
    else c :: rest

/-- The character whose number some hexadecimal digits spell. -/
def numbered? (digits : List Char) : Option Char :=
  let n := Text.digitsValue 16 digits
  if h : digits.all (Text.isDigitOf 16) ∧ n.isValidChar then some (Char.ofNatAux n h.2) else none

/-- What an escape of one letter stands for. -/
def letterEscape? (c : Char) : Option Char :=
  match c with
  | 'b' => some '\x08'
  | 't' => some '\t'
  | 'n' => some '\n'
  | 'f' => some '\x0c'
  | 'r' => some '\r'
  | '"' => some '"'
  | '\\' => some '\\'
  | _ => none

/-- What stands after a backslash: the character and the number of letters that spell it. -/
def escape? (s : List Char) : Option (Char × Nat) :=
  match s with
  | 'u' :: rest => if rest.length < 4 then none else (numbered? (rest.take 4)).map (·, 5)
  | 'U' :: rest => if rest.length < 8 then none else (numbered? (rest.take 8)).map (·, 9)
  | c :: _ => (letterEscape? c).map (·, 1)
  | [] => none

/-- A string up to its closing quote; `skip` letters were spelled by an escape. -/
def basicString (skip : Nat) : List Char → Option (List Char × List Char)
  | [] => none
  | c :: rest =>
    match skip with
    | skip + 1 => basicString skip rest
    | 0 =>
      if c = '"' then some ([], rest)
      else if c = '\\' then
        (escape? rest).bind fun (e, n) => (basicString n rest).map fun (s, more) => (e :: s, more)
      else if isPlain c then (basicString 0 rest).map fun (s, more) => (c :: s, more)
      else none

/-- A string up to its closing apostrophe. -/
def literalString : List Char → Option (List Char × List Char)
  | [] => none
  | c :: rest =>
    if c = '\'' then some ([], rest)
    else if isPlain c then (literalString rest).map fun (s, more) => (c :: s, more)
    else none

/-- The marks at the start of a text that close a string over several lines: how many of them belong
to the string, and what follows. -/
def closing? (mark : Char) (s : List Char) : Option (List Char × List Char) :=
  let marks := (s.takeWhile (· = mark)).length
  if marks < 3 then none
  else
    let inner := min (marks - 3) 2
    some (List.replicate inner mark, s.drop (inner + 3))

/-- A literal string over several lines up to its closing marks. -/
def literalLines : List Char → Option (List Char × List Char)
  | [] => none
  | c :: rest =>
    match closing? '\'' (c :: rest) with
    | some closed => some closed
    | none =>
      if isPlain c || c = '\n' then (literalLines rest).map fun (s, more) => (c :: s, more) else none

/-- A backslash before this text ends a line: the line break and all blanks after it are dropped. -/
def continues (s : List Char) : Bool := (skipSpace s).head? == some '\n'

/-- A basic string over several lines up to its closing marks; `skip` letters were spelled by an
escape, and blanks are dropped while `joining` lines. -/
def basicLines (skip : Nat) (joining : Bool) : List Char → Option (List Char × List Char)
  | [] => none
  | c :: rest =>
    match skip with
    | skip + 1 => basicLines skip false rest
    | 0 =>
      if joining && isBlank c then basicLines 0 true rest
      else
        match closing? '"' (c :: rest) with
        | some closed => some closed
        | none =>
          if c = '\\' then
            if continues rest then basicLines 0 true rest
            else
              (escape? rest).bind fun (e, n) =>
                (basicLines n false rest).map fun (s, more) => (e :: s, more)
          else if isPlain c || c = '\n' then
            (basicLines 0 false rest).map fun (s, more) => (c :: s, more)
          else none

/-- The text without a line break right at its start. -/
def skipFirstBreak : List Char → List Char
  | '\n' :: rest => rest
  | s => s

/-- A string of any kind at the start of a text, and the rest. -/
def readString? : List Char → Option (List Char × List Char)
  | '"' :: '"' :: '"' :: rest => basicLines 0 false (skipFirstBreak rest)
  | '\'' :: '\'' :: '\'' :: rest => literalLines (skipFirstBreak rest)
  | '"' :: rest => basicString 0 rest
  | '\'' :: rest => literalString rest
  | _ => none

/-- A character of a key without quotes. -/
def isKeyChar (c : Char) : Bool := c.isAlphanum || c = '-' || c = '_'

/-- One name of a key at the start of a text, and the rest. -/
def readName? : List Char → Option (String × List Char)
  | '"' :: rest => (basicString 0 rest).map fun (s, more) => (String.ofList s, more)
  | '\'' :: rest => (literalString rest).map fun (s, more) => (String.ofList s, more)
  | s =>
    match s.takeWhile isKeyChar with
    | [] => none
    | name => some (String.ofList name, s.dropWhile isKeyChar)

end InboxAudit.Toml
