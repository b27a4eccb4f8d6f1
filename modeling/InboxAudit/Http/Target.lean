import InboxAudit.Text.Blank
import InboxAudit.Text.Utf8

/-!
# Request targets

The path and the query of a request, as they are sent. A path is cut at slashes and backslashes; a
segment of one dot is dropped and one of two dots takes the segment before it away. A question mark
in the path begins the query, which the parameters are added to; a number sign ends both. All that
may not stand in its place is percent-encoded, parameters in the form encoding.
-/

namespace InboxAudit.Http
set_option autoImplicit false

open InboxAudit.Text (pieces toUtf8)

/-- One hexadecimal digit in upper case. -/
def upperHex (n : Nat) : Char :=
  if n < 10 then Char.ofNat (48 + n) else Char.ofNat (55 + n)

/-- A byte as a percent sign and two digits. -/
def percentByte (b : UInt8) : List Char :=
  ['%', upperHex (b.toNat / 16), upperHex (b.toNat % 16)]

/-- The text with the UTF-8 bytes of all other characters than `plain` ones percent-encoded. -/
def percentEncode (plain : Char → Bool) (s : List Char) : List Char :=
  s.flatMap fun c => if plain c then [c] else (toUtf8 c.toString).flatMap percentByte

/-- A printable ASCII character other than the space. -/
def isGraphic (c : Char) : Bool := 0x20 < c.toNat && c.toNat < 0x7F

/-- What stands for itself in a path. -/
def isPathChar (c : Char) : Bool :=
  isGraphic c && !List.contains ['"', '<', '>', '\x60', '#', '?', '\x7b', '\x7d'] c

/-- What stands for itself in a query. -/
def isQueryChar (c : Char) : Bool :=
  isGraphic c && !List.contains ['"', '#', '<', '>', '\''] c

/-- What stands for itself in a form. -/
def isFormChar (c : Char) : Bool :=
  c.isAlphanum || ['*', '-', '.', '_'].contains c

/-- A text in the form encoding, in which a space is a plus sign. -/
def formEncode (s : List Char) : List Char :=
  s.flatMap fun c => if c = ' ' then ['+'] else percentEncode isFormChar [c]

/-- Parameters in the form encoding. -/
def formPairs (parameters : List (String × String)) : List Char :=
  ['&'].intercalate (parameters.map fun p => formEncode p.1.toList ++ '=' :: formEncode p.2.toList)

/-- The text without the control characters and spaces around it and without tabs and line breaks. -/
def withoutControls (s : List Char) : List Char :=
  let isControl (c : Char) : Bool := c.toNat ≤ 0x20
  (((s.reverse.dropWhile isControl).reverse).dropWhile isControl).filter
    fun c => !List.contains ['\t', '\n', '\r'] c

/-- A character that ends a segment of a path. -/
def isSlash (c : Char) : Bool := c = '/' || c = '\\'

/-- The segment without percent-encoding of its dots, in lower case. -/
def plainDots : List Char → List Char
  | '%' :: '2' :: 'e' :: rest => '.' :: plainDots rest
  | '%' :: '2' :: 'E' :: rest => '.' :: plainDots rest
  | c :: rest => c :: plainDots rest
  | [] => []

/-- The segments that are left of a path after those before them, kept in reverse. A path that ends
in a dot segment ends in a slash. -/
def resolveDots (kept : List (List Char)) : List (List Char) → List (List Char)
  | [] => kept.reverse
  | segment :: rest =>
    let final := if rest.isEmpty then [[]] else []
    if plainDots segment = ['.'] then resolveDots (final ++ kept) rest
    else if plainDots segment = ['.', '.'] then resolveDots (final ++ kept.drop 1) rest
    else resolveDots (segment :: kept) rest

/-- A path without dot segments, encoded. -/
def normalPath (path : List Char) : List Char :=
  let kept := resolveDots [] ((pieces isSlash path).drop 1)
  kept.flatMap fun segment => '/' :: percentEncode isPathChar segment

/-- The target of a request for an absolute path and some parameters. -/
def target (path : String) (parameters : List (String × String)) : String :=
  let whole := (withoutControls path.toList).takeWhile (· ≠ '#')
  let query := (whole.dropWhile (· ≠ '?')).drop 1
  let asked := percentEncode isQueryChar query
  let added := formPairs parameters
  let separator := if asked = [] ∨ parameters = [] then [] else ['&']
  String.ofList (normalPath (whole.takeWhile (· ≠ '?')) ++ '?' :: (asked ++ separator ++ added))

end InboxAudit.Http
