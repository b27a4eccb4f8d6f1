import InboxAudit.Toml.Printer
import InboxAudit.Toml.Text

/-!
# Strings read back

Whatever kind of string a text is written in, it is read back up to the closing marks
(`readString?_printString`). A character is written as itself or as an escape that spells it
(`Spells`). Between three marks a run of marks is never long enough to close the string
early: either the rest of the body is one short run, which the closing marks take in, or something
else follows (`closing?_body`).
-/

namespace InboxAudit.Toml
set_option autoImplicit false

/-- What follows a value: a comma, the closing bracket or the line break. -/
def Ends (rest : List Char) : Prop :=
  ∃ c more, rest = c :: more ∧ (c = ',' ∨ c = ']' ∨ c = '\n')

section Escapes

variable {c : Char} {piece more : List Char}

/-- The piece is a backslash and visible characters that spell the character. -/
def IsEscape (c : Char) (piece : List Char) : Prop :=
  ∃ e spelled, piece = '\\' :: e :: spelled ∧ (∀ d ∈ e :: spelled, 0x20 < d.toNat) ∧
    ∀ more, escape? (e :: (spelled ++ more)) = some (c, spelled.length + 1)

theorem isEscape_letter {e : Char} (letter : letterEscape? e = some c) :
    IsEscape c ['\\', e] := by
  have notNumbered : e ≠ 'u' ∧ e ≠ 'U' := by
    constructor <;> (rintro rfl; cases letter)
  refine ⟨e, [], rfl, ?_, fun more => by simp [escape?, notNumbered, letter]⟩
  rw [List.forall_mem_singleton]
  unfold letterEscape? at letter
  split at letter
  all_goals first
    | decide
    | cases letter

theorem numbered_hexChar : ∀ n < 0x80,
    numbered? ['0', '0', hexChar (n / 16), hexChar (n % 16)] = some (Char.ofNat n) ∧
      ['u', '0', '0', hexChar (n / 16), hexChar (n % 16)].all (0x20 < ·.toNat) = true := by
  decide

theorem isEscape_numbered (small : c.toNat < 0x80) :
    IsEscape c ['\\', 'u', '0', '0', hexChar (c.toNat / 16), hexChar (c.toNat % 16)] := by
  obtain ⟨read, visible⟩ := numbered_hexChar c.toNat small
  refine ⟨'u', _, rfl, fun d mem => ?_, fun more => by simp [escape?, read, Char.ofNat_toNat]⟩
  exact of_decide_eq_true (List.all_eq_true.1 visible d mem)

/-- A character outside of runs of quotes is written as itself or as an escape. -/
theorem escapeChar_cases (c : Char) :
    (escapeChar c = [c] ∧ c ≠ '\\' ∧ isPlain c = true) ∨ IsEscape c (escapeChar c) := by
  by_cases named : c ∈ ['\\', '\x08', '\t', '\x0c', '\r']
  · simp only [List.mem_cons, List.not_mem_nil, or_false] at named
    rcases named with rfl | rfl | rfl | rfl | rfl <;> exact .inr (isEscape_letter rfl)
  · simp only [List.mem_cons, List.not_mem_nil, or_false, not_or] at named
    by_cases control : c.toNat < 0x20 ∨ c.toNat = 0x7F
    · have numbered := isEscape_numbered (show c.toNat < 0x80 by omega)
      exact .inr (by simpa [escapeChar, named, control] using numbered)
    · have plain : isPlain c = true := by
        simp [isPlain]
        omega
      simp [escapeChar, named, control, plain]

theorem escapeLine_cons (c : Char) (s : List Char) :
    escapeLine (c :: s) = (if c = '"' then ['\\', '"'] else if c = '\n' then ['\\', 'n']
      else escapeChar c) ++ escapeLine s := List.flatMap_cons

/-- How a character may stand in a basic string: as itself, a line feed only where there are several
lines, or as an escape. -/
inductive Spells (multiline : Bool) (c : Char) : List Char → Prop where
  | itself (notQuote : c ≠ '"') (notBackslash : c ≠ '\\')
    (plain : isPlain c = true ∨ (multiline = true ∧ c = '\n')) : Spells multiline c [c]
  | escape {piece : List Char} (escape : IsEscape c piece) : Spells multiline c piece

theorem Spells.exists_head {multiline : Bool} (spells : Spells multiline c piece) :
    ∃ d more, piece = d :: more ∧ d ≠ '"' ∧ (d = '\n' → c = '\n') := by
  cases spells with
  | itself notQuote => exact ⟨c, [], rfl, notQuote, id⟩
  | escape escape =>
    obtain ⟨e, spelled, rfl, -⟩ := escape
    exact ⟨'\\', e :: spelled, rfl, by decide, fun eq => absurd eq (by decide)⟩

theorem Spells.noReturn {multiline : Bool} (spells : Spells multiline c piece) : '\r' ∉ piece := by
  intro mem
  cases spells with
  | itself _ _ plain =>
    rw [List.mem_singleton] at mem
    subst mem
    cases multiline <;> exact absurd plain (by decide)
  | escape escape =>
    obtain ⟨e, spelled, rfl, visible, -⟩ := escape
    rcases List.mem_cons.1 mem with eq | mem
    · exact absurd eq (by decide)
    · exact absurd (visible _ mem) (by decide)

theorem Spells.escapeChar {multiline : Bool} (notQuote : c ≠ '"') :
    Spells multiline c (escapeChar c) := by
  rcases escapeChar_cases c with ⟨same, notBackslash, plain⟩ | escape
  · rw [same]
    exact .itself notQuote notBackslash (.inl plain)
  · exact .escape escape

/-- On one line quotes and line feeds are written as escapes, too. -/
theorem exists_piece_of_line (c : Char) :
    ∃ piece, (∀ s, escapeLine (c :: s) = piece ++ escapeLine s) ∧ Spells false c piece := by
  refine ⟨_, escapeLine_cons c, ?_⟩
  split
  · next quote =>
    subst quote
    exact .escape (isEscape_letter rfl)
  · next notQuote =>
    split
    · next lineFeed =>
      subst lineFeed
      exact .escape (isEscape_letter rfl)
    · exact .escapeChar notQuote

end Escapes

section OneLine

variable {s rest : List Char}

theorem basicString_spelled (spelled more : List Char) :
    basicString spelled.length (spelled ++ more) = basicString 0 more := by
  induction spelled with
  | nil => rfl
  | cons c spelled ih => simp only [List.length_cons, List.cons_append, basicString, ih]

theorem basicString_escape {c : Char} {piece : List Char} (escape : IsEscape c piece)
    (more : List Char) :
    basicString 0 (piece ++ more) = (basicString 0 more).map fun (s, rest) => (c :: s, rest) := by
  obtain ⟨e, spelled, rfl, -, read⟩ := escape
  simp [basicString, read, basicString_spelled]

/-- A basic string on one line is read back. -/
theorem basicString_escapeLine (s rest : List Char) :
    basicString 0 (escapeLine s ++ '"' :: rest) = some (s, rest) := by
  induction s with
  | nil => rfl
  | cons c s ih =>
    obtain ⟨piece, written, spells⟩ := exists_piece_of_line c
    rw [written, List.append_assoc]
    cases spells with
    | itself notQuote notBackslash plain =>
      have plain : isPlain c = true := by simpa using plain
      simp [basicString, notQuote, notBackslash, plain, ih]
    | escape escape =>
      rw [basicString_escape escape, ih]
      rfl

theorem literalString_append (plain : ∀ c ∈ s, c ≠ '\'' ∧ isPlain c = true) (rest : List Char) :
    literalString (s ++ '\'' :: rest) = some (s, rest) := by
  induction s with
  | nil => rfl
  | cons c s ih =>
    obtain ⟨⟨notMark, first⟩, plain⟩ := List.forall_mem_cons.1 plain
    simp [literalString, notMark, first, ih plain]

end OneLine

section Marks

variable {mark : Char} {s body rest : List Char}

/-- How many marks a text begins with. -/
def leading (mark : Char) (s : List Char) : Nat := (s.takeWhile (· = mark)).length

theorem leading_self (mark : Char) (s : List Char) :
    leading mark (mark :: s) = leading mark s + 1 := by
  simp [leading]

theorem leading_other {c : Char} (other : c ≠ mark) (s : List Char) : leading mark (c :: s) = 0 := by
  simp [leading, other]

theorem closing?_of_leading (few : leading mark s ≤ 2) : closing? mark s = none := by
  have less : (s.takeWhile (· = mark)).length < 3 := Nat.lt_succ_of_le few
  rw [closing?, if_pos less]

/-- A body that begins with two marks at most is either nothing but marks, and they belong to the
string, or it does not close the string here. -/
theorem closing?_body (short : leading mark body ≤ 2) (other : rest.head? ≠ some mark) :
    (closing? mark (body ++ (List.replicate 3 mark ++ rest)) = some (body, rest) ∧
      ∀ c ∈ body, c = mark) ∨
    (closing? mark (body ++ (List.replicate 3 mark ++ rest)) = none ∧ body ≠ []) := by
  by_cases marks : ∀ c ∈ body, c = mark
  · left
    refine ⟨?_, marks⟩
    obtain ⟨n, rfl⟩ : ∃ n, body = List.replicate n mark := ⟨_, List.eq_replicate_of_mem marks⟩
    have stops : rest.takeWhile (· = mark) = [] := by
      cases rest with
      | nil => rfl
      | cons c rest =>
        have notMark : c ≠ mark := by simpa using other
        simp [notMark]
    have run : (List.replicate n mark ++ (List.replicate 3 mark ++ rest)).takeWhile (· = mark) =
        List.replicate (n + 3) mark := by
      rw [← List.append_assoc, List.replicate_append_replicate, List.takeWhile_append_of_pos,
        stops, List.append_nil]
      simp
    have few : n ≤ 2 := by simpa [leading] using short
    have dropped : (List.replicate n mark ++ (List.replicate 3 mark ++ rest)).drop (n + 3) =
        rest := by
      rw [← List.append_assoc, List.replicate_append_replicate]
      exact List.drop_left' List.length_replicate
    have inner : min (n + 3 - 3) 2 = n := by omega
    rw [closing?, run, List.length_replicate, if_neg (by omega)]
    simp only [inner, dropped]
  · right
    have partly : (body.takeWhile (· = mark)).length ≠ body.length := by
      intro whole
      refine marks fun c mem => ?_
      rw [← (List.takeWhile_prefix _).eq_of_length whole] at mem
      simpa using List.all_eq_true.1 List.all_takeWhile c mem
    refine ⟨closing?_of_leading ?_, ?_⟩
    · rw [leading, List.takeWhile_append, if_neg partly]
      exact short
    · rintro rfl
      exact partly rfl

theorem closing?_marks (other : rest.head? ≠ some mark) :
    closing? mark (List.replicate 3 mark ++ rest) = some ([], rest) := by
  have short : leading mark [] ≤ 2 := Nat.zero_le 2
  rcases closing?_body short other with ⟨closed, -⟩ | ⟨-, filled⟩
  · exact closed
  · exact absurd rfl filled

end Marks

section LiteralLines

variable {s rest : List Char}

theorem leading_add_le_longestRun (mark : Char) (run : Nat) (s : List Char) :
    leading mark s + run ≤ longestRun mark run s := by
  induction s generalizing run with
  | nil => simp [leading, longestRun]
  | cons c s ih =>
    by_cases same : c = mark
    · subst same
      rw [leading_self, longestRun, if_pos rfl]
      have := ih (run + 1)
      omega
    · rw [leading_other same, longestRun, if_neg same]
      omega

theorem literalLines_closed {body : List Char} (closed : closing? '\'' s = some (body, rest)) :
    literalLines s = some (body, rest) := by
  cases s with
  | nil => cases closed
  | cons c s => rw [literalLines, closed]

/-- A literal string over several lines is read back; `run` apostrophes stand right before it. -/
theorem literalLines_append {run : Nat} (short : longestRun '\'' run s ≤ 2)
    (plain : ∀ c ∈ s, isPlain c = true ∨ c = '\n') (other : rest.head? ≠ some '\'') :
    literalLines (s ++ (List.replicate 3 '\'' ++ rest)) = some (s, rest) := by
  induction s generalizing run with
  | nil => exact literalLines_closed (closing?_marks other)
  | cons c s ih =>
    -- At every place the marks ahead, with those right before, are a part of one run of the text.
    have ahead := leading_add_le_longestRun '\'' run (c :: s)
    have few : leading '\'' (c :: s) ≤ 2 := by omega
    rcases closing?_body few other with ⟨closed, -⟩ | ⟨opened, -⟩
    · exact literalLines_closed closed
    · obtain ⟨first, plain⟩ := List.forall_mem_cons.1 plain
      have later : literalLines (s ++ (List.replicate 3 '\'' ++ rest)) = some (s, rest) := by
        rw [longestRun] at short
        split at short
        · exact ih short plain
        · exact ih (Nat.le_trans (Nat.le_max_right _ _) short) plain
      rw [List.cons_append] at opened ⊢
      have solid : (isPlain c || decide (c = '\n')) = true := by simpa using first
      rw [literalLines, opened]
      dsimp only
      rw [if_pos solid, later]
      rfl

end LiteralLines

section BasicLines

variable {c : Char} {s piece more rest : List Char}

theorem basicLines_closed {body : List Char} (closed : closing? '"' s = some (body, rest)) :
    basicLines 0 false s = some (body, rest) := by
  cases s with
  | nil => cases closed
  | cons c s => simp [basicLines, closed]

theorem basicLines_plain (notBackslash : c ≠ '\\') (plain : isPlain c = true ∨ c = '\n')
    (opened : closing? '"' (c :: more) = none) :
    basicLines 0 false (c :: more) =
      (basicLines 0 false more).map fun (s, rest) => (c :: s, rest) := by
  simp [basicLines, opened, notBackslash, plain]

theorem basicLines_spelled (spelled more : List Char) :
    basicLines spelled.length false (spelled ++ more) = basicLines 0 false more := by
  induction spelled with
  | nil => rfl
  | cons c spelled ih => simp only [List.length_cons, List.cons_append, basicLines, ih]

theorem continues_cons {e : Char} (visible : 0x20 < e.toNat) (s : List Char) :
    continues (e :: s) = false := by
  have solid : e ≠ ' ' ∧ e ≠ '\t' ∧ e ≠ '\n' := by
    refine ⟨?_, ?_, ?_⟩ <;> (rintro rfl; revert visible; decide)
  simp [continues, skipSpace, isSpace, solid]

theorem basicLines_escape (escape : IsEscape c piece) (more : List Char) :
    basicLines 0 false (piece ++ more) =
      (basicLines 0 false more).map fun (s, rest) => (c :: s, rest) := by
  obtain ⟨e, spelled, rfl, visible, read⟩ := escape
  have solid := continues_cons (visible e List.mem_cons_self) (spelled ++ more)
  have opened : closing? '"' ('\\' :: e :: (spelled ++ more)) = none :=
    closing?_of_leading (by rw [leading_other (by decide)]; omega)
  simp [basicLines, opened, solid, read, basicLines_spelled]

/-- A character between three quotes: a quote as one more of a short run, or a piece after which
the run begins anew. -/
theorem linesChar_cases (quotes : Nat) (c : Char) :
    (c = '"' ∧ quotes < 2 ∧
      ∀ s, escapeLines quotes (c :: s) = '"' :: escapeLines (quotes + 1) s) ∨
    ∃ piece, (∀ s, escapeLines quotes (c :: s) = piece ++ escapeLines 0 s) ∧
      Spells true c piece := by
  by_cases quote : c = '"'
  · subst quote
    by_cases few : quotes < 2
    · exact .inl ⟨rfl, few, fun s => by simp [escapeLines, few]⟩
    · exact .inr ⟨['\\', '"'], fun s => by simp [escapeLines, few], .escape (isEscape_letter rfl)⟩
  · right
    by_cases lineFeed : c = '\n'
    · subst lineFeed
      exact ⟨['\n'], fun s => rfl, .itself (by decide) (by decide) (.inr ⟨rfl, rfl⟩)⟩
    · exact ⟨escapeChar c, fun s => by simp [escapeLines, quote, lineFeed], .escapeChar quote⟩

theorem leading_of_spells (spells : Spells true c piece) (more : List Char) :
    leading '"' (piece ++ more) = 0 := by
  obtain ⟨d, _, rfl, notQuote, -⟩ := spells.exists_head
  exact leading_other notQuote _

/-- The third quote in a row is written as an escape. -/
theorem leading_escapeLines (quotes : Nat) (s : List Char) :
    leading '"' (escapeLines quotes s) ≤ 2 - quotes := by
  induction s generalizing quotes with
  | nil => simp [escapeLines, leading]
  | cons c s ih =>
    rcases linesChar_cases quotes c with ⟨rfl, few, written⟩ | ⟨piece, written, spells⟩
    · rw [written, leading_self]
      have := ih (quotes + 1)
      omega
    · rw [written, leading_of_spells spells]
      exact Nat.zero_le _

theorem escapeLines_of_quotes {quotes : Nat} (all : ∀ c ∈ escapeLines quotes s, c = '"') :
    escapeLines quotes s = s := by
  induction s generalizing quotes with
  | nil => rfl
  | cons c s ih =>
    rcases linesChar_cases quotes c with ⟨rfl, few, written⟩ | ⟨piece, written, spells⟩
    · rw [written] at all ⊢
      rw [ih (List.forall_mem_cons.1 all).2]
    · obtain ⟨d, _, rfl, notQuote, -⟩ := spells.exists_head
      rw [written] at all
      exact absurd (all d List.mem_cons_self) notQuote

/-- A basic string over several lines is read back; `quotes` of them stand right before it. -/
theorem basicLines_escapeLines (quotes : Nat) (s : List Char) (other : rest.head? ≠ some '"') :
    basicLines 0 false (escapeLines quotes s ++ (List.replicate 3 '"' ++ rest)) = some (s, rest) := by
  induction s generalizing quotes with
  | nil => exact basicLines_closed (closing?_marks other)
  | cons c s ih =>
    rcases linesChar_cases quotes c with ⟨rfl, few, written⟩ | ⟨piece, written, spells⟩
    · -- The quotes ahead close the string here only if they are all that is left of the body.
      have short := leading_escapeLines quotes ('"' :: s)
      rcases closing?_body (Nat.le_trans short (Nat.sub_le 2 quotes)) other with
        ⟨closed, all⟩ | ⟨opened, -⟩
      · rw [escapeLines_of_quotes all] at closed ⊢
        exact basicLines_closed closed
      · rw [written, List.cons_append] at opened ⊢
        rw [basicLines_plain (by decide) (.inl (by decide)) opened, ih]
        rfl
    · rw [written, List.append_assoc]
      have opened : closing? '"' (piece ++ (escapeLines 0 s ++ (List.replicate 3 '"' ++ rest))) =
          none := closing?_of_leading (by rw [leading_of_spells spells]; exact Nat.zero_le 2)
      cases spells with
      | itself _ notBackslash plain =>
        have plain : isPlain c = true ∨ c = '\n' := by simpa using plain
        rw [List.singleton_append] at opened ⊢
        rw [basicLines_plain notBackslash plain opened, ih]
        rfl
      | escape escape =>
        rw [basicLines_escape escape, ih]
        rfl

end BasicLines

section Styles

variable {s t rest : List Char}

theorem isPlain_of_not_isControl {c : Char} (free : isControl c = false) (noBreak : c ≠ '\n') :
    isPlain c = true := by
  simp only [isControl, noBreak, ne_eq, decide_not, decide_false, Bool.not_false, Bool.and_true,
    Bool.or_eq_false_iff, Bool.and_eq_false_iff, decide_eq_false_iff_not,
    Bool.not_eq_false', decide_eq_true_eq] at free
  obtain ⟨low | tab, delete⟩ := free
  · simp [isPlain, Nat.not_lt.1 low, delete]
  · simp [isPlain, tab]

/-- What a text must be like where a string has no escapes. -/
def Style.Fits (s : List Char) : Style → Prop
  | .literal => ∀ c ∈ s, c ≠ '\'' ∧ isPlain c = true
  | .literalLines => (∀ c ∈ s, isPlain c = true ∨ c = '\n') ∧ longestRun '\'' 0 s ≤ 2
  | _ => True

theorem Style.fits_of (s : List Char) : (Style.of s).Fits s := by
  simp only [Style.of]
  split
  · trivial
  split
  · next condition =>
    simp only [Bool.and_eq_true, Bool.not_eq_true', List.any_eq_false, List.contains_eq_mem,
      decide_eq_false_iff_not] at condition
    obtain ⟨⟨free, noMark⟩, noBreak⟩ := condition
    intro c mem
    have notBreak : c ≠ '\n' := fun eq => noBreak (eq ▸ mem)
    exact ⟨fun eq => noMark (eq ▸ mem),
      isPlain_of_not_isControl (Bool.eq_false_iff.2 (free c mem)) notBreak⟩
  split
  · trivial
  split
  · next condition =>
    simp only [Bool.and_eq_true, Bool.not_eq_true', List.any_eq_false,
      decide_eq_true_eq] at condition
    obtain ⟨free, short⟩ := condition
    refine ⟨fun c mem => ?_, short⟩
    by_cases lineFeed : c = '\n'
    · exact .inr lineFeed
    · exact .inl (isPlain_of_not_isControl (Bool.eq_false_iff.2 (free c mem)) lineFeed)
  · split <;> trivial

theorem readString?_quote (noMarks : ∀ more, t ≠ '"' :: '"' :: more) :
    readString? ('"' :: t) = basicString 0 t := by
  rw [readString?]
  exact noMarks

theorem readString?_apostrophe (noMarks : ∀ more, t ≠ '\'' :: '\'' :: more) :
    readString? ('\'' :: t) = literalString t := by
  rw [readString?]
  exact noMarks

theorem head?_escapeLine (s : List Char) : (escapeLine s).head? ≠ some '"' := by
  cases s with
  | nil => simp [escapeLine]
  | cons c s =>
    obtain ⟨piece, written, spells⟩ := exists_piece_of_line c
    obtain ⟨d, more, rfl, notQuote, -⟩ := spells.exists_head
    simpa [written] using notQuote

theorem head?_escapeLines (noBreak : '\n' ∉ s) (quotes : Nat) :
    (escapeLines quotes s).head? ≠ some '\n' := by
  cases s with
  | nil => simp [escapeLines]
  | cons c s =>
    rcases linesChar_cases quotes c with ⟨rfl, few, written⟩ | ⟨piece, written, spells⟩
    · simp [written]
    · obtain ⟨d, more, rfl, -, lineFeed⟩ := spells.exists_head
      have other : d ≠ '\n' := fun eq => noBreak (lineFeed eq ▸ List.mem_cons_self)
      simpa [written] using other

theorem ne_marks {mark : Char} (first : s.head? ≠ some mark) (other : rest.head? ≠ some mark)
    (more : List Char) : s ++ mark :: rest ≠ mark :: mark :: more := by
  intro eq
  cases s with
  | nil =>
    rw [List.nil_append] at eq
    exact other (by rw [(List.cons.inj eq).2]; rfl)
  | cons c s => exact first (by rw [(List.cons.inj eq).1]; rfl)

/-- The line break right after the opening marks does not belong to the string. -/
theorem skipFirstBreak_body {mark : Char} (notBreak : mark ≠ '\n') (multiline : Bool)
    {body : List Char} (oneLine : multiline = false → body.head? ≠ some '\n') (rest : List Char) :
    skipFirstBreak ((if multiline then ['\n'] else []) ++ (body ++ (List.replicate 3 mark ++ rest))) =
      body ++ (List.replicate 3 mark ++ rest) := by
  cases multiline with
  | true => rfl
  | false =>
    have other : (body ++ (List.replicate 3 mark ++ rest)).head? ≠ some '\n' := by
      cases body with
      | nil => simpa using notBreak
      | cons c body => exact oneLine rfl
    simp only [Bool.false_eq_true, if_false, List.nil_append]
    unfold skipFirstBreak
    split
    · next eq => exact absurd (by rw [eq]; rfl) other
    · rfl

theorem Ends.head?_ne {rest : List Char} (ends : Ends rest) :
    rest.head? ≠ some '"' ∧ rest.head? ≠ some '\'' := by
  obtain ⟨c, more, rfl, rfl | rfl | rfl⟩ := ends <;> simp

theorem betweenMarks_append (mark : Char) (multiline : Bool) (body rest : List Char) :
    betweenMarks mark multiline body ++ rest = mark :: mark :: mark ::
      ((if multiline then ['\n'] else []) ++ (body ++ (List.replicate 3 mark ++ rest))) := by
  simp [betweenMarks]

/-- A text is read back from the string it is written as. -/
theorem readString?_printString (s : List Char) (ends : Ends rest) :
    readString? (printString s ++ rest) = some (s, rest) := by
  obtain ⟨noQuote, noApostrophe⟩ := ends.head?_ne
  rw [printString]
  split
  · rw [List.cons_append, List.append_assoc, List.singleton_append,
      readString?_quote (ne_marks (head?_escapeLine s) noQuote)]
    exact basicString_escapeLine s rest
  · next style =>
    have plain : Style.literal.Fits s := style ▸ Style.fits_of s
    have first : s.head? ≠ some '\'' := fun head => (plain _ (List.mem_of_mem_head? head)).1 rfl
    rw [List.cons_append, List.append_assoc, List.singleton_append,
      readString?_apostrophe (ne_marks first noApostrophe)]
    exact literalString_append plain rest
  · rw [betweenMarks_append, readString?, skipFirstBreak_body (by decide)]
    · exact basicLines_escapeLines 0 s noQuote
    · intro oneLine
      exact head?_escapeLines (by simpa using oneLine) 0
  · next style =>
    obtain ⟨plain, short⟩ : Style.literalLines.Fits s := style ▸ Style.fits_of s
    rw [betweenMarks_append, readString?, skipFirstBreak_body (by decide)]
    · exact literalLines_append short plain noApostrophe
    · intro oneLine head
      have mem : '\n' ∈ s := List.mem_of_mem_head? head
      simp [mem] at oneLine

end Styles

section LineBreaks

theorem noReturn_escapeLine (s : List Char) : '\r' ∉ escapeLine s := by
  induction s with
  | nil => simp [escapeLine]
  | cons c s ih =>
    obtain ⟨piece, written, spells⟩ := exists_piece_of_line c
    simp [written, spells.noReturn, ih]

theorem noReturn_escapeLines (quotes : Nat) (s : List Char) : '\r' ∉ escapeLines quotes s := by
  induction s generalizing quotes with
  | nil => simp [escapeLines]
  | cons c s ih =>
    rcases linesChar_cases quotes c with ⟨rfl, -, written⟩ | ⟨piece, written, spells⟩
    · simp [written, ih]
    · simp [written, spells.noReturn, ih]

/-- No string is written with a carriage return in it. -/
theorem noReturn_printString (s : List Char) : '\r' ∉ printString s := by
  rw [printString]
  split
  · simp [noReturn_escapeLine]
  · next style =>
    have plain : Style.literal.Fits s := style ▸ Style.fits_of s
    have free : '\r' ∉ s := fun mem => absurd (plain _ mem).2 (by decide)
    simp [free]
  · cases s.contains '\n' <;> simp [betweenMarks, noReturn_escapeLines]
  · next style =>
    obtain ⟨plain, -⟩ : Style.literalLines.Fits s := style ▸ Style.fits_of s
    have free : '\r' ∉ s := fun mem => absurd (plain _ mem) (by decide)
    cases s.contains '\n' <;> simp [betweenMarks, free]

end LineBreaks

end InboxAudit.Toml
