import InboxAudit.Json.Value
import InboxAudit.Text.Digits
import InboxAudit.Text.Utf8

/-!
# Reading JSON

A strict reader: no byte order mark, no trailing text, white space is space, tab, line feed and
carriage return only, control characters in strings are escaped. Each function returns what it
read and the rest of the glyphs. Nothing bounds the nesting of a document here.
-/

namespace InboxAudit.Json
set_option autoImplicit false

open InboxAudit.Text (Glyph)

/-- White space between the parts of a document. -/
def isSpace (g : Glyph) : Bool :=
  g = some ' ' || g = some '\t' || g = some '\n' || g = some '\r'

/-- A decimal digit. -/
def isDigit (g : Glyph) : Bool :=
  match g with
  | some c => c.isDigit
  | none => false

/-- The characters among some glyphs. -/
def chars (gs : List Glyph) : List Char := gs.filterMap id

/-- The digits at the start, at least one, and the rest. -/
def digits1 (s : List Glyph) : Option (List Char × List Glyph) :=
  match s.takeWhile isDigit with
  | [] => none
  | ds => some (chars ds, s.dropWhile isDigit)

/-- A fraction, its point included, or nothing. -/
def fraction (s : List Glyph) : Option (List Char × List Glyph) :=
  match s with
  | some '.' :: rest => (digits1 rest).map fun (ds, rest) => ('.' :: ds, rest)
  | _ => some ([], s)

/-- The sign of an exponent, or nothing. -/
def exponentSign (s : List Glyph) : List Char × List Glyph :=
  match s with
  | some '+' :: rest => (['+'], rest)
  | some '-' :: rest => (['-'], rest)
  | _ => ([], s)

/-- An exponent, its letter included, or nothing. -/
def exponent (s : List Glyph) : Option (List Char × List Glyph) :=
  let marked (letter : Char) (rest : List Glyph) :=
    let (sign, rest) := exponentSign rest
    (digits1 rest).map fun (ds, rest) => (letter :: sign ++ ds, rest)
  match s with
  | some 'e' :: rest => marked 'e' rest
  | some 'E' :: rest => marked 'E' rest
  | _ => some ([], s)

/-- A number without its sign: no leading zero before a digit. -/
def magnitude (negative : Bool) (s : List Glyph) : Option (Number × List Glyph) := do
  let (whole, rest) ← digits1 s
  if whole.head? = some '0' ∧ whole.length > 1 then none
  let (frac, rest) ← fraction rest
  let (power, rest) ← exponent rest
  let sign := if negative then ['-'] else []
  if frac = [] ∧ power = [] ∧ ¬(negative ∧ whole = ['0']) then
    let n : Int := Text.digitsValue 10 whole
    return (.integer (if negative then -n else n), rest)
  else
    return (.decimal (String.ofList (sign ++ whole ++ frac ++ power)), rest)

/-- The value of a hexadecimal digit. -/
def hexDigit? (g : Glyph) : Option Nat :=
  (g.filter (Text.isDigitOf 16)).map Text.digitValue

/-- The value of four hexadecimal digits. -/
def hex4? (a b c d : Glyph) : Option Nat := do
  return (((← hexDigit? a) * 16 + (← hexDigit? b)) * 16 + (← hexDigit? c)) * 16 + (← hexDigit? d)

/-- What an escape of one letter stands for. -/
def shortEscape? (g : Glyph) : Option Char :=
  match g with
  | some '"' => some '"'
  | some '\\' => some '\\'
  | some '/' => some '/'
  | some 'b' => some '\x08'
  | some 'f' => some '\x0c'
  | some 'n' => some '\n'
  | some 'r' => some '\r'
  | some 't' => some '\t'
  | _ => none

/-- One part of a string: a character, a half of a surrogate pair, or undecodable bytes. -/
inductive Part where
  | char (c : Char)
  | half (unit : Nat)
  | damage
  deriving Repr, DecidableEq

/-- The part that a numbered escape stands for. -/
def Part.ofUnit (unit : Nat) : Part :=
  if 0xD800 ≤ unit ∧ unit ≤ 0xDFFF then .half unit else .char (Char.ofNat unit)

/-- The text of some parts: a high half and the low half right after it are one character. -/
def joinParts : List Part → Option (List Char)
  | [] => some []
  | .char c :: rest => (joinParts rest).map (c :: ·)
  | .half high :: .half low :: rest =>
    if high < 0xDC00 ∧ 0xDC00 ≤ low then
      (joinParts rest).map (Char.ofNat (0x10000 + (high - 0xD800) * 0x400 + (low - 0xDC00)) :: ·)
    else none
  | .half _ :: _ => none
  | .damage :: _ => none

/-- The parts of a string up to its closing quote. -/
def stringParts : List Glyph → Option (List Part × List Glyph)
  | [] => none
  | some '"' :: rest => some ([], rest)
  | some '\\' :: some 'u' :: a :: b :: c :: d :: rest =>
    match hex4? a b c d with
    | none => none
    | some unit => (stringParts rest).map fun (parts, rest) => (Part.ofUnit unit :: parts, rest)
  | some '\\' :: e :: rest =>
    match shortEscape? e with
    | none => none
    | some c => (stringParts rest).map fun (parts, rest) => (.char c :: parts, rest)
  | some c :: rest =>
    if c.toNat < 0x20 ∨ c = '\\' then none
    else (stringParts rest).map fun (parts, rest) => (.char c :: parts, rest)
  | none :: rest => (stringParts rest).map fun (parts, rest) => (.damage :: parts, rest)

/-- A string after its opening quote: its text, where it has one, and the rest. -/
def stringText (s : List Glyph) : Option (Option String × List Glyph) :=
  (stringParts s).map fun (parts, rest) => ((joinParts parts).map String.ofList, rest)

/-- The value of an object's members, unreadable where a key is. -/
def ofMembers (members : List (Option String × Json)) : Json :=
  match members.mapM fun m => m.1.map (·, m.2) with
  | some readable => .object readable
  | none => .unreadable

/-- The text without leading white space. -/
def skipSpace (s : List Glyph) : List Glyph := s.dropWhile isSpace

mutual

/-- One value and the rest; `fuel` bounds the recursion. -/
def value (fuel : Nat) (s : List Glyph) : Option (Json × List Glyph) :=
  match fuel with
  | 0 => none
  | fuel + 1 =>
    match skipSpace s with
    | some 'n' :: some 'u' :: some 'l' :: some 'l' :: rest => some (.null, rest)
    | some 't' :: some 'r' :: some 'u' :: some 'e' :: rest => some (.bool true, rest)
    | some 'f' :: some 'a' :: some 'l' :: some 's' :: some 'e' :: rest => some (.bool false, rest)
    | some '"' :: rest =>
      (stringText rest).map fun (text, rest) =>
        (match text with | some text => .string text | none => .unreadable, rest)
    | some '-' :: rest => (magnitude true rest).map fun (n, rest) => (.number n, rest)
    | some '[' :: rest =>
      match skipSpace rest with
      | some ']' :: rest => some (.array [], rest)
      | rest => (items fuel rest).map fun (items, rest) => (.array items, rest)
    | some '{' :: rest =>
      match skipSpace rest with
      | some '}' :: rest => some (.object [], rest)
      | rest => (members fuel rest).map fun (members, rest) => (ofMembers members, rest)
    | rest => (magnitude false rest).map fun (n, rest) => (.number n, rest)

/-- The items of an array up to its closing bracket, at least one. -/
def items (fuel : Nat) (s : List Glyph) : Option (List Json × List Glyph) :=
  match fuel with
  | 0 => none
  | fuel + 1 => do
    let (item, rest) ← value fuel s
    match skipSpace rest with
    | some ',' :: rest =>
      let (more, rest) ← items fuel rest
      return (item :: more, rest)
    | some ']' :: rest => return ([item], rest)
    | _ => none

/-- The members of an object up to its closing brace, at least one. -/
def members (fuel : Nat) (s : List Glyph) : Option (List (Option String × Json) × List Glyph) :=
  match fuel with
  | 0 => none
  | fuel + 1 =>
    match skipSpace s with
    | some '"' :: rest => do
      let (key, rest) ← stringText rest
      match skipSpace rest with
      | some ':' :: rest =>
        let (item, rest) ← value fuel rest
        match skipSpace rest with
        | some ',' :: rest =>
          let (more, rest) ← members fuel rest
          return ((key, item) :: more, rest)
        | some '}' :: rest => return ([(key, item)], rest)
        | _ => none
      | _ => none
    | _ => none

end

/-- The document that the glyphs spell, with nothing after it. -/
def readGlyphs (s : List Glyph) : Option Json :=
  match value (2 * s.length + 1) s with
  | some (v, rest) => if skipSpace rest = [] then some v else none
  | none => none

/-- The document of a text. -/
def read (s : List Char) : Option Json :=
  readGlyphs (Glyph.ofText s)

/-- The document of some bytes. -/
def readBytes (bytes : List UInt8) : Option Json :=
  readGlyphs (Glyph.decode bytes)

end InboxAudit.Json
