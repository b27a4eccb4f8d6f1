import InboxAudit.Log.Basic
import InboxAudit.Text.Alphanumeric
import InboxAudit.Text.Digits

/-!
# Choosing log lines

Which log lines are shown is chosen by directives between commas. A directive is a level for
everything, or the beginning of the names of some sources, with or without a level after an equals
sign; a name without a level shows its sources entirely. Brackets after the name, or in place of it,
narrow a directive down to lines inside a span, of which this program has none, or with a braced
name inside, to lines with a field. Of the directives that apply to a line the one with the longest
name decides, of those one that asks for a field, and of those the last. Without directives only
errors are shown, and one directive that is not well formed makes all of them unusable.

The shape of a directive is that of its text without the white space around it. Its parts are cut
out of the whole text, though, at the places where they stand in the shape. So white space behind
a level spoils it, and so does white space in front of the directive, which moves all parts.
-/

namespace InboxAudit.Log
set_option autoImplicit false

open InboxAudit.Text (pieces sameAsciiCase strip isAlphanumeric)

/-- What a directive asks of a line besides its source. -/
inductive Demand where
  | nothing
  /-- A span around the line, or a field with a certain value: no line has them. -/
  | span
  | field (name : String)
  deriving Repr, DecidableEq

/-- One directive: lines up to a rank from sources whose names begin in some way. -/
structure Directive where
  source : String
  demand : Demand
  rank : Nat
  deriving Repr, DecidableEq

/-- The rank up to which a level word or its number shows lines. -/
def rank? (word : List Char) : Option Nat :=
  match (Text.natural? word).filter (· ≤ 5) with
  | some rank => some rank
  | none =>
    if sameAsciiCase word "off".toList then some 0
    else (Level.all.find? fun level => sameAsciiCase word level.name.toList).map Level.rank

/-- The rank of the text behind an equals sign: everything where it is empty. -/
def rankAfter? (text : List Char) : Option Nat :=
  if text = [] then some Level.trace.rank else rank? text

/-- The first character of a name. -/
def isNameStart (c : Char) : Bool := isAlphanumeric c || c = '_' || c = ':' || c = '-'

/-- A character that ends a name. -/
def endsName (c : Char) : Bool := c = '=' || c = '['

/-- A character that ends the name of a span. -/
def endsSpan (c : Char) : Bool := c = ']' || c = '\x7b'

namespace Directive

/-- The part of a text that begins where `rest` begins in the shape and is as long as `size`. -/
def part (text shape rest : List Char) (size : Nat) : List Char :=
  (text.drop (shape.length - rest.length)).take size

/-- What brackets ask for, from behind the opening one on, and the rest of the shape behind the
closing one. -/
def demand? (text shape inside : List Char) : Option (Demand × List Char) :=
  let span := inside.takeWhile (!endsSpan ·)
  match inside.dropWhile (!endsSpan ·) with
  | ']' :: rest => some (.span, rest)
  | '\x7b' :: fields =>
    let field := fields.takeWhile (· ≠ '\x7d')
    match fields.dropWhile (· ≠ '\x7d') with
    | '\x7d' :: ']' :: rest =>
      let name := part text shape fields field.length
      if field = [] then none
      else if span = [] ∧ '=' ∉ name then some (.field (String.ofList name), rest)
      else some (.span, rest)
    | _ => none
  | _ => none

/-- The rank that a directive ends in, from behind its name and its brackets on. -/
def ending? (text shape : List Char) : List Char → Option Nat
  | [] => some Level.trace.rank
  | '=' :: level => rankAfter? (text.drop (shape.length - level.length))
  | _ => none

/-- A directive that is a single word: a level, or a name. -/
def ofWord (text : List Char) : Directive :=
  match rank? text with
  | some rank => ⟨"", .nothing, rank⟩
  | none => ⟨String.ofList text, .nothing, Level.trace.rank⟩

/-- The directive that a text of some shape spells. -/
def ofShape? (text shape : List Char) : Option Directive :=
  let name := shape.takeWhile (!endsName ·)
  let source := String.ofList (text.take name.length)
  match shape.dropWhile (!endsName ·) with
  | [] => some (ofWord text)
  | '[' :: inside => do
    let (demand, rest) ← demand? text shape inside
    return ⟨source, demand, ← ending? text shape rest⟩
  | rest => (ending? text shape rest).map fun rank => ⟨source, .nothing, rank⟩

/-- The directive that a text spells. -/
def ofText? (text : List Char) : Option Directive :=
  match strip text with
  | [] => none
  | c :: rest => if isNameStart c ∨ c = '[' then ofShape? text (c :: rest) else none

end Directive

/-- Directives, the last one first. -/
abbrev Filter := List Directive

/-- The directives of a text. -/
def Filter.ofText? (s : String) : Option Filter :=
  (((pieces (· = ',') s.toList).filter (· ≠ [])).mapM Directive.ofText?).map List.reverse

/-- A line has what a directive asks of it. -/
def Demand.isMet (line : Line) : Demand → Bool
  | .nothing => true
  | .span => false
  | .field name => line.hasField name

/-- The directive applies to a line. -/
def Directive.applies (line : Line) (d : Directive) : Bool :=
  d.demand.isMet line && line.source.startsWith d.source

/-- The first demand asks for more than the second: for any field rather than for none, and for the
greater one of two. -/
def Demand.exceeds : Demand → Demand → Bool
  | .field a, .field b => b < a
  | .field _, _ => true
  | _, _ => false

/-- Of two directives the one with the longer name, or else the one that asks for more, or else the
first. -/
def Directive.closer (best : Option Directive) (d : Directive) : Option Directive :=
  match best with
  | none => some d
  | some best =>
    let isCloser := if best.source.length = d.source.length then d.demand.exceeds best.demand
      else decide (best.source.length < d.source.length)
    if isCloser then some d else some best

/-- The line is shown. -/
def Filter.shows (filter : Filter) (line : Line) : Bool :=
  if filter = [] then line.level.rank ≤ Level.error.rank
  else
    match (filter.filter (·.applies line)).foldl Directive.closer none with
    | none => false
    | some d => line.level.rank ≤ d.rank

/-- What is shown when nothing is chosen: everything of importance, and what happens in detail where
that is asked for. -/
def Filter.standard (verbose : Bool) : Filter :=
  [⟨Source.program.name, .nothing, (if verbose then Level.debug else Level.info).rank⟩]

/-- What the text of a choice shows; a choice that is not there or not usable is the standard one. -/
def Filter.choose (verbose : Bool) (choice : Option String) : Filter :=
  (choice.bind Filter.ofText?).getD (standard verbose)

end InboxAudit.Log
