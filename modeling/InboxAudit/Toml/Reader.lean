import InboxAudit.Text.Utf8
import InboxAudit.Toml.Scalar
import InboxAudit.Toml.Text
import InboxAudit.Toml.Tree

/-!
# Reading TOML

A document is a sequence of lines: headers, key and value pairs, comments. Arrays may go over
several lines, tables in braces may not. Values are nested less than eighty deep, and a key has less
than eighty names.
-/

namespace InboxAudit.Toml
set_option autoImplicit false

/-- Nothing is nested as deep as this. -/
def nestingLimit : Nat := 80

/-- The names of a key, at least one, and the rest; `fuel` bounds their number. -/
def names? : (fuel : Nat) → List Char → Option (List String × List Char)
  | 0, _ => none
  | fuel + 1, s => do
    let (name, rest) ← readName? (skipSpace s)
    match skipSpace rest with
    | '.' :: rest =>
      let (names, rest) ← names? fuel rest
      return (name :: names, rest)
    | rest => return ([name], rest)

/-- A key: the names before the last one, and the last one. -/
def readKey? (s : List Char) : Option (List String × String × List Char) := do
  let (names, rest) ← names? (nestingLimit - 1) s
  return (names.dropLast, ← names.getLast?, rest)

/-- An equals sign and the space after it. -/
def equals? : List Char → Option (List Char)
  | '=' :: rest => some (skipSpace rest)
  | _ => none

mutual

/-- A value and the rest, `levels` more levels deep at most; `fuel` bounds the recursion. -/
def readValue? (fuel levels : Nat) (s : List Char) : Option (Toml × List Char) :=
  match fuel with
  | 0 => none
  | fuel + 1 =>
    match s with
    | '"' :: _ => (readString? s).map fun (text, rest) => (.string (String.ofList text), rest)
    | '\'' :: _ => (readString? s).map fun (text, rest) => (.string (String.ofList text), rest)
    | '[' :: rest =>
      match levels with
      | 0 => none
      | levels + 1 =>
        match skipLines false rest with
        | ']' :: rest => some (.array [], rest)
        | rest => (readItems? fuel levels rest).map fun (items, rest) => (.array items, rest)
    | '{' :: rest =>
      match levels with
      | 0 => none
      | levels + 1 =>
        match skipSpace rest with
        | '}' :: rest => some (.table [], rest)
        | rest => (readPairs? fuel levels [] rest).map fun (entries, rest) =>
          (.table (Tree.entriesToToml entries), rest)
    | s => readScalar s

/-- The items of an array up to its closing bracket, at least one. -/
def readItems? (fuel levels : Nat) (s : List Char) : Option (List Toml × List Char) :=
  match fuel with
  | 0 => none
  | fuel + 1 => do
    let (item, rest) ← readValue? fuel levels s
    match skipLines false rest with
    | ']' :: rest => return ([item], rest)
    | ',' :: rest =>
      match skipLines false rest with
      | ']' :: rest => return ([item], rest)
      | rest =>
        let (items, rest) ← readItems? fuel levels rest
        return (item :: items, rest)
    | _ => none

/-- The pairs of a table up to its closing brace, at least one, after those in `entries`. -/
def readPairs? (fuel levels : Nat) (entries : Entries) (s : List Char) :
    Option (Entries × List Char) :=
  match fuel with
  | 0 => none
  | fuel + 1 => do
    let (path, key, rest) ← readKey? s
    let (v, rest) ← readValue? fuel levels (← equals? rest)
    let entries ← Tree.add entries path key v
    match skipSpace rest with
    | '}' :: rest => return (entries, rest)
    | ',' :: rest => readPairs? fuel levels entries rest
    | _ => none

end

/-- A document under construction: its entries, and the names of the last header. -/
structure Draft where
  entries : Entries
  header : List String

/-- A header of a table, after its bracket. -/
def readHeader? (d : Draft) (s : List Char) : Option (Draft × List Char) := do
  let (path, key, rest) ← readKey? s
  match rest with
  | ']' :: rest =>
    let entries ← Tree.alterTable (Tree.openTable key) path d.entries
    return (⟨entries, path ++ [key]⟩, ← lineEnd? rest)
  | _ => none

/-- A header of an item of an array of tables, after its brackets. -/
def readItemHeader? (d : Draft) (s : List Char) : Option (Draft × List Char) := do
  let (path, key, rest) ← readKey? s
  match rest with
  | ']' :: ']' :: rest =>
    let entries ← Tree.alterTable (Tree.openItem key) path d.entries
    return (⟨entries, path ++ [key]⟩, ← lineEnd? rest)
  | _ => none

/-- A pair on a line of its own. -/
def readPair? (fuel : Nat) (d : Draft) (s : List Char) : Option (Draft × List Char) := do
  let (path, key, rest) ← readKey? s
  let (v, rest) ← readValue? fuel (nestingLimit - 1) (← equals? rest)
  let entries ← Tree.alterTable (Tree.add · path key v) d.header d.entries
  return ({ d with entries }, ← lineEnd? rest)

/-- One line of a document that holds more than a comment. -/
def readLine? (fuel : Nat) (d : Draft) : List Char → Option (Draft × List Char)
  | '[' :: '[' :: rest => readItemHeader? d rest
  | '[' :: rest => readHeader? d rest
  | s => readPair? fuel d s

/-- The lines of a document; `fuel` bounds their number. -/
def readLines? (fuel : Nat) (d : Draft) (s : List Char) : Option Draft :=
  match fuel with
  | 0 => none
  | fuel + 1 =>
    match skipLines false s with
    | [] => some d
    | s => do
      let (d, rest) ← readLine? s.length d s
      readLines? fuel d rest

/-- The document that a text spells; a byte order mark may stand before it. -/
def read? (s : List Char) : Option Toml := do
  let s := match s with
    | '\uFEFF' :: rest => rest
    | s => s
  let s := withLineFeeds s
  let d ← readLines? (s.length + 1) ⟨[], []⟩ s
  return .table (Tree.entriesToToml d.entries)

end InboxAudit.Toml
