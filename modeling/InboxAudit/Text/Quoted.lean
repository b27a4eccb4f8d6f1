import InboxAudit.Text.Hidden

/-!
# Quoted text

A text in quotes on one line of a log: quotes, backslashes and the characters that do not show by
themselves are escaped.
-/

namespace InboxAudit.Text.Quoted
set_option autoImplicit false

/-- A number in hexadecimal digits, lower case. -/
def hex (n : Nat) : List Char := Nat.toDigits 16 n

/-- A character inside quotes. -/
def escapeChar (c : Char) : List Char :=
  if c = '"' then ['\\', '"']
  else if c = '\\' then ['\\', '\\']
  else if c = '\n' then ['\\', 'n']
  else if c = '\r' then ['\\', 'r']
  else if c = '\t' then ['\\', 't']
  else if c = '\x00' then ['\\', '0']
  else if isHidden c then ['\\', 'u', '\x7b'] ++ hex c.toNat ++ ['\x7d']
  else [c]

/-- A text in quotes. -/
def quote (s : String) : String :=
  String.ofList ('"' :: (s.toList.flatMap escapeChar ++ ['"']))

end InboxAudit.Text.Quoted
