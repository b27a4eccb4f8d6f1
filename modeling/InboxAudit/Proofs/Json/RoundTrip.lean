import InboxAudit.Proofs.Json.Strings
import InboxAudit.Proofs.Text.Digits

/-!
# Documents read back

A document without decimal literals is read back from its pretty text (`read_pretty`). A number ends
before a comma or a line break (`Ends`), which is what the printer puts after every value, so values
are read one by one: `items_prettyItems` and `members_prettyMembers` go through a list of them, and
`IsExact.readsBack` through a document.
-/

namespace InboxAudit.Json
set_option autoImplicit false

open InboxAudit.Text (Glyph digitsValue_toDigits isDigit_of_mem_toDigits not_leading_zero
  head?_toDigits_of_pos
  digitsValue exists_digit_of_toDigits)

/-- What follows a value on its line: a comma or the line break. -/
def Ends (rest : List Glyph) : Prop :=
  ∃ g more, rest = g :: more ∧ (g = some ',' ∨ g = some '\n')

section Numbers

variable {rest : List Glyph}

theorem digits1_append {ds : List Char} (decimal : ∀ c ∈ ds, c.isDigit = true) (filled : ds ≠ [])
    (ends : Ends rest) : digits1 (Glyph.ofText ds ++ rest) = some (ds, rest) := by
  obtain ⟨g, more, rfl, stop⟩ := ends
  have stops : isDigit g = false := by rcases stop with rfl | rfl <;> rfl
  have digits : ∀ g ∈ Glyph.ofText ds, isDigit g = true := by
    simpa [Glyph.ofText, isDigit] using decimal
  have taken : (Glyph.ofText ds ++ g :: more).takeWhile isDigit = Glyph.ofText ds := by
    rw [List.takeWhile_append_of_pos digits]
    simp [stops]
  have left : (Glyph.ofText ds ++ g :: more).dropWhile isDigit = g :: more := by
    rw [List.dropWhile_append_of_pos digits]
    simp [stops]
  have read : chars (Glyph.ofText ds) = ds := by simp [chars, Glyph.ofText]
  unfold digits1
  rw [taken, left]
  split
  · next empty => simp [Glyph.ofText, filled] at empty
  · rw [read]

/-- The digits of a number are read to the end of its line. -/
theorem magnitude_toDigits (negative : Bool) {n : Nat} (nonzero : negative = true → 0 < n)
    (ends : Ends rest) :
    magnitude negative (Glyph.ofText (Nat.toDigits 10 n) ++ rest) =
      some (.integer (if negative then -n else n), rest) := by
  have whole := digits1_append (fun c => isDigit_of_mem_toDigits (n := n)) Nat.toDigits_ne_nil ends
  obtain ⟨g, more, rfl, stop⟩ := ends
  have noFraction : fraction (g :: more) = some ([], g :: more) := by
    rcases stop with rfl | rfl <;> rfl
  have noExponent : exponent (g :: more) = some ([], g :: more) := by
    rcases stop with rfl | rfl <;> rfl
  have leading := not_leading_zero n
  have plain : ¬(negative = true ∧ Nat.toDigits 10 n = ['0']) := by
    rintro ⟨negated, zero⟩
    exact head?_toDigits_of_pos (nonzero negated) (by rw [zero]; rfl)
  simp [magnitude, whole, leading, noFraction, noExponent, plain, digitsValue_toDigits]

end Numbers

section Space

theorem skipSpace_cons {g : Glyph} (solid : isSpace g = false) (s : List Glyph) :
    skipSpace (g :: s) = g :: s := by
  rw [skipSpace, List.dropWhile_cons_of_neg (by simp [solid])]

theorem skipSpace_space {g : Glyph} (space : isSpace g = true) (s : List Glyph) :
    skipSpace (g :: s) = skipSpace s := by
  rw [skipSpace, List.dropWhile_cons_of_pos space]
  rfl

theorem skipSpace_newLine (level : Nat) (s : List Glyph) :
    skipSpace (Glyph.ofText (newLine level) ++ s) = skipSpace s := by
  have spaces : ∀ g ∈ Glyph.ofText (newLine level), isSpace g = true := by
    simp +contextual [Glyph.ofText, newLine, isSpace]
  rw [skipSpace, List.dropWhile_append_of_pos spaces]
  rfl

theorem skipSpace_skipSpace (s : List Glyph) : skipSpace (skipSpace s) = skipSpace s := by
  induction s with
  | nil => rfl
  | cons g rest ih =>
    cases space : isSpace g with
    | true => rw [skipSpace_space space, ih]
    | false => rw [skipSpace_cons space, skipSpace_cons space]

/-- Space in front of a value is passed over. -/
theorem value_skipSpace (fuel : Nat) (s : List Glyph) : value fuel (skipSpace s) = value fuel s := by
  cases fuel with
  | zero => simp [value]
  | succ fuel => simp only [value, skipSpace_skipSpace]

theorem items_skipSpace (fuel : Nat) (s : List Glyph) : items fuel (skipSpace s) = items fuel s := by
  cases fuel with
  | zero => simp [items]
  | succ fuel => simp only [items, value_skipSpace]

theorem members_skipSpace (fuel : Nat) (s : List Glyph) :
    members fuel (skipSpace s) = members fuel s := by
  cases fuel with
  | zero => simp [members]
  | succ fuel => simp only [members, skipSpace_skipSpace]

end Space

theorem isSpace_of_isDigit {c : Char} (digit : c.isDigit = true) : isSpace (some c) = false := by
  rw [Bool.eq_false_iff]
  intro space
  simp only [isSpace, Option.some.injEq, decide_eq_true_eq, Bool.or_eq_true] at space
  rcases space with ((rfl | rfl) | rfl) | rfl <;> cases digit

/-- A value that begins with a digit is a number without a sign. -/
theorem value_of_digit {c : Char} (digit : c.isDigit = true) (fuel : Nat) (s : List Glyph) :
    value (fuel + 1) (some c :: s) =
      (magnitude false (some c :: s)).map fun (n, rest) => (.number n, rest) := by
  rw [value, skipSpace_cons (isSpace_of_isDigit digit)]
  split
  all_goals first
    | rfl
    | next eq => cases eq; cases digit

theorem print_integer (n : Int) : (Number.integer n).print =
    if 0 ≤ n then Nat.toDigits 10 n.toNat else '-' :: Nat.toDigits 10 (-n).toNat := by
  rw [Number.print, Int.toString_eq_repr, Int.repr_eq_if]
  split <;> simp

theorem value_integer {rest : List Glyph} (ends : Ends rest) (fuel : Nat) (n : Int) :
    value (fuel + 1) (Glyph.ofText (Number.integer n).print ++ rest) =
      some (.number (.integer n), rest) := by
  rw [print_integer]
  split
  · next natural =>
    have read := magnitude_toDigits false (n := n.toNat) (by simp) ends
    obtain ⟨d, more, digits, digit⟩ := exists_digit_of_toDigits n.toNat
    have text : Glyph.ofText (d :: more) ++ rest = some d :: (Glyph.ofText more ++ rest) := rfl
    rw [digits, text] at read ⊢
    rw [value_of_digit digit, read]
    simp [Int.toNat_of_nonneg natural]
  · next negative =>
    have read := magnitude_toDigits true (n := (-n).toNat) (by omega) ends
    have text : Glyph.ofText ('-' :: Nat.toDigits 10 (-n).toNat) ++ rest =
        some '-' :: (Glyph.ofText (Nat.toDigits 10 (-n).toNat) ++ rest) := rfl
    rw [text, value, skipSpace_cons (by decide)]
    simp [read]
    omega

/-- A document without decimal literals and unreadable parts. -/
inductive IsExact : Json → Prop where
  | null : IsExact .null
  | bool (value : Bool) : IsExact (.bool value)
  | integer (n : Int) : IsExact (.number (.integer n))
  | string (text : String) : IsExact (.string text)
  | array {items : List Json} (exact : ∀ item ∈ items, IsExact item) : IsExact (.array items)
  | object {members : List (String × Json)} (exact : ∀ m ∈ members, IsExact m.2) :
    IsExact (.object members)

theorem isExact_map {α : Type} {write : α → Json} (exact : ∀ a, (write a).IsExact) (l : List α) :
    (array (l.map write)).IsExact :=
  .array fun item mem => by
    obtain ⟨a, _, rfl⟩ := List.mem_map.1 mem
    exact exact a

theorem isExact_texts (items : List String) : (texts items).IsExact := isExact_map .string items

/-- The text of a document begins with neither space nor a closing bracket. -/
theorem IsExact.exists_head {v : Json} (exact : v.IsExact) (level : Nat) :
    ∃ c s, pretty level v = c :: s ∧ isSpace (some c) = false ∧ c ≠ ']' := by
  cases exact with
  | null => exact ⟨'n', _, rfl, by decide, by decide⟩
  | bool value => cases value <;> exact ⟨_, _, rfl, by decide, by decide⟩
  | integer n =>
    rw [show pretty level (.number (.integer n)) = (Number.integer n).print from rfl, print_integer]
    split
    · obtain ⟨d, more, digits, digit⟩ := exists_digit_of_toDigits n.toNat
      refine ⟨d, more, digits, isSpace_of_isDigit digit, ?_⟩
      rintro rfl
      cases digit
    · exact ⟨'-', _, rfl, by decide, by decide⟩
  | string text => exact ⟨'"', _, rfl, by decide, by decide⟩
  | @array items exact => cases items <;> exact ⟨'[', _, rfl, by decide, by decide⟩
  | @object members exact => cases members <;> exact ⟨'\x7b', _, rfl, by decide, by decide⟩

theorem ofMembers_some (ms : List (String × Json)) :
    ofMembers (ms.map fun m => (some m.1, m.2)) = .object ms := by
  have readable : (ms.map fun m => (some m.1, m.2)).mapM
      (fun m : Option String × Json => m.1.map (·, m.2)) = some ms := by
    induction ms with
    | nil => rfl
    | cons m rest ih => simp [ih]
  rw [ofMembers, readable]

theorem ends_comma (s : List Glyph) : Ends (some ',' :: s) := ⟨_, s, rfl, .inl rfl⟩

theorem ends_newLine (level : Nat) (s : List Glyph) : Ends (Glyph.ofText (newLine level) ++ s) :=
  ⟨_, _, rfl, .inr rfl⟩

/-- The value is read back from its pretty text on any level; two steps of fuel a character are
enough. -/
def ReadsBack (v : Json) : Prop :=
  ∀ (level fuel : Nat) (rest : List Glyph), Ends rest → 2 * (pretty level v).length ≤ fuel + 1 →
    value (fuel + 1) (Glyph.ofText (pretty level v) ++ rest) = some (v, rest)

theorem ofText_append (s t : List Char) :
    Glyph.ofText (s ++ t) = Glyph.ofText s ++ Glyph.ofText t := List.map_append

theorem ofText_cons (c : Char) (s : List Char) :
    Glyph.ofText (c :: s) = some c :: Glyph.ofText s := rfl

theorem value_newLine (fuel level : Nat) (s : List Glyph) :
    value fuel (Glyph.ofText (newLine level) ++ s) = value fuel s := by
  rw [← value_skipSpace, skipSpace_newLine, value_skipSpace]

section Items

variable {fuel : Nat} {s rest rest' rest'' : List Glyph} {item : Json} {more : List Json}

theorem items_of_closing (read : value fuel s = some (item, rest))
    (closing : skipSpace rest = some ']' :: rest') : items (fuel + 1) s = some ([item], rest') := by
  simp [items, read, closing]

theorem items_of_comma (read : value fuel s = some (item, rest))
    (comma : skipSpace rest = some ',' :: rest') (later : items fuel rest' = some (more, rest'')) :
    items (fuel + 1) s = some (item :: more, rest'') := by
  simp [items, read, comma, later]

theorem prettyItems_cons_cons (level : Nat) (item next : Json) (more : List Json) :
    prettyItems level (item :: next :: more) =
      newLine level ++ (pretty level item ++ ',' :: prettyItems level (next :: more)) := by
  rw [← List.append_assoc]
  rfl

/-- Items are read back up to the closing bracket. -/
theorem items_prettyItems (level outer : Nat) (exact : ∀ v ∈ item :: more, v.ReadsBack)
    (enough : 2 * (prettyItems level (item :: more)).length ≤ fuel) (rest : List Glyph) :
    items fuel (Glyph.ofText (prettyItems level (item :: more)) ++
      (Glyph.ofText (newLine outer) ++ some ']' :: rest)) = some (item :: more, rest) := by
  induction more generalizing item fuel with
  | nil =>
    rw [prettyItems] at enough ⊢
    rw [ofText_append, List.append_assoc]
    simp only [List.length_append, newLine, List.length_cons] at enough
    obtain ⟨k, rfl⟩ : ∃ k, fuel = k + 2 := ⟨fuel - 2, by omega⟩
    have read := exact item List.mem_cons_self level k _ (ends_newLine outer (some ']' :: rest))
      (by omega)
    rw [← value_newLine (k + 1) level] at read
    refine items_of_closing read ?_
    rw [skipSpace_newLine, skipSpace_cons (by decide)]
  | cons next more ih =>
    obtain ⟨first, tail⟩ := List.forall_mem_cons.1 exact
    rw [prettyItems_cons_cons] at enough ⊢
    rw [ofText_append, ofText_append, ofText_cons, List.append_assoc, List.append_assoc,
      List.cons_append]
    simp only [List.length_append, newLine, List.length_cons] at enough
    obtain ⟨k, rfl⟩ : ∃ k, fuel = k + 2 := ⟨fuel - 2, by omega⟩
    have later := ih tail (show 2 * (prettyItems level (next :: more)).length ≤ k + 1 by omega)
    have read := first level k _ (ends_comma (Glyph.ofText (prettyItems level (next :: more)) ++
      (Glyph.ofText (newLine outer) ++ some ']' :: rest))) (by omega)
    rw [← value_newLine (k + 1) level] at read
    exact items_of_comma read (skipSpace_cons (by decide) _) later

end Items

section Members

variable {fuel : Nat} {s s' rest rest' rest'' : List Glyph} {key : String} {item : Json}
  {read : List (Option String × Json)} {member : String × Json} {more : List (String × Json)}

/-- The member's key and colon stand in front of its value. -/
def StartsMember (s : List Glyph) (key : String) (s' : List Glyph) : Prop :=
  ∃ inside after, skipSpace s = some '"' :: inside ∧ stringText inside = some (some key, after) ∧
    skipSpace after = some ':' :: s'

theorem members_of_closing (start : StartsMember s key s') (value : value fuel s' = some (item, rest))
    (closing : skipSpace rest = some '}' :: rest') :
    members (fuel + 1) s = some ([(some key, item)], rest') := by
  obtain ⟨inside, after, opening, text, colon⟩ := start
  simp [members, opening, text, colon, value, closing]

theorem members_of_comma (start : StartsMember s key s') (value : value fuel s' = some (item, rest))
    (comma : skipSpace rest = some ',' :: rest') (later : members fuel rest' = some (read, rest'')) :
    members (fuel + 1) s = some ((some key, item) :: read, rest'') := by
  obtain ⟨inside, after, opening, text, colon⟩ := start
  simp [members, opening, text, colon, value, comma, later]

/-- A key on a new line, up to its value. -/
def keyText (level : Nat) (key : String) : List Char :=
  newLine level ++ (quote key.toList ++ [':', ' '])

theorem prettyMembers_singleton (level : Nat) (member : String × Json) :
    prettyMembers level [member] = keyText level member.1 ++ pretty level member.2 := by
  simp [prettyMembers, keyText]

theorem prettyMembers_cons_cons (level : Nat) (member next : String × Json)
    (more : List (String × Json)) :
    prettyMembers level (member :: next :: more) =
      keyText level member.1 ++ (pretty level member.2 ++ ',' :: prettyMembers level (next :: more)) := by
  simp [prettyMembers, keyText]

theorem startsMember_keyText (level : Nat) (key : String) (s : List Glyph) :
    StartsMember (Glyph.ofText (keyText level key) ++ s) key (some ' ' :: s) := by
  refine ⟨Glyph.ofText (key.toList.flatMap escapeChar) ++ some '"' :: some ':' :: some ' ' :: s,
    some ':' :: some ' ' :: s, ?_, ?_, skipSpace_cons (by decide) _⟩
  · have quoted : Glyph.ofText (quote key.toList ++ [':', ' ']) ++ s = some '"' ::
        (Glyph.ofText (key.toList.flatMap escapeChar) ++ some '"' :: some ':' :: some ' ' :: s) := by
      simp [quote, Glyph.ofText]
    rw [keyText, ofText_append, List.append_assoc, skipSpace_newLine, quoted,
      skipSpace_cons (by decide)]
  · rw [stringText_quote, String.ofList_toList]

theorem value_space (fuel : Nat) (s : List Glyph) : value fuel (some ' ' :: s) = value fuel s := by
  rw [← value_skipSpace, skipSpace_space (by decide), value_skipSpace]

/-- Members are read back up to the closing brace. -/
theorem members_prettyMembers (level outer : Nat) (exact : ∀ m ∈ member :: more, m.2.ReadsBack)
    (enough : 2 * (prettyMembers level (member :: more)).length ≤ fuel) (rest : List Glyph) :
    members fuel (Glyph.ofText (prettyMembers level (member :: more)) ++
      (Glyph.ofText (newLine outer) ++ some '\x7d' :: rest)) =
        some ((member :: more).map fun m => (some m.1, m.2), rest) := by
  induction more generalizing member fuel with
  | nil =>
    rw [prettyMembers_singleton] at enough ⊢
    rw [ofText_append, List.append_assoc]
    simp only [List.length_append, keyText, newLine, List.length_cons] at enough
    obtain ⟨k, rfl⟩ : ∃ k, fuel = k + 2 := ⟨fuel - 2, by omega⟩
    have read := exact member List.mem_cons_self level k _
      (ends_newLine outer (some '\x7d' :: rest)) (by omega)
    rw [← value_space] at read
    refine members_of_closing (startsMember_keyText level member.1 _) read ?_
    rw [skipSpace_newLine, skipSpace_cons (by decide)]
  | cons next more ih =>
    obtain ⟨first, tail⟩ := List.forall_mem_cons.1 exact
    rw [prettyMembers_cons_cons] at enough ⊢
    rw [ofText_append, ofText_append, ofText_cons, List.append_assoc, List.append_assoc,
      List.cons_append]
    simp only [List.length_append, keyText, newLine, List.length_cons] at enough
    obtain ⟨k, rfl⟩ : ∃ k, fuel = k + 2 := ⟨fuel - 2, by omega⟩
    have later := ih tail (show 2 * (prettyMembers level (next :: more)).length ≤ k + 1 by omega)
    have read := first level k _ (ends_comma (Glyph.ofText (prettyMembers level (next :: more)) ++
      (Glyph.ofText (newLine outer) ++ some '\x7d' :: rest))) (by omega)
    rw [← value_space] at read
    exact members_of_comma (startsMember_keyText level member.1 _) read
      (skipSpace_cons (by decide) _) later

end Members

theorem value_of_bracket {g : Glyph} {s more : List Glyph} (head : skipSpace s = g :: more)
    (notEmpty : g ≠ some ']') (fuel : Nat) :
    value (fuel + 1) (some '[' :: s) =
      (items fuel s).map fun (items, rest) => (.array items, rest) := by
  simp only [value, skipSpace_cons (show isSpace (some '[') = false by decide)]
  rw [← items_skipSpace fuel s, head]
  split
  · next eq => exact absurd (List.cons.inj eq).1 notEmpty
  · rfl

theorem value_of_brace {g : Glyph} {s more : List Glyph} (head : skipSpace s = g :: more)
    (notEmpty : g ≠ some '\x7d') (fuel : Nat) :
    value (fuel + 1) (some '\x7b' :: s) =
      (members fuel s).map fun (members, rest) => (ofMembers members, rest) := by
  simp only [value, skipSpace_cons (show isSpace (some '\x7b') = false by decide)]
  rw [← members_skipSpace fuel s, head]
  split
  · next eq => exact absurd (List.cons.inj eq).1 notEmpty
  · rfl

theorem skipSpace_prettyItems {item : Json} (exact : item.IsExact) (more : List Json) (level : Nat)
    (rest : List Glyph) : ∃ c s, some c ≠ some ']' ∧
      skipSpace (Glyph.ofText (prettyItems level (item :: more)) ++ rest) = some c :: s := by
  obtain ⟨c, s, text, solid, notClosing⟩ := exact.exists_head level
  obtain ⟨after, items⟩ : ∃ after, prettyItems level (item :: more) = newLine level ++ (c :: after) := by
    cases more with
    | nil => exact ⟨s, by rw [← text]; rfl⟩
    | cons next more =>
      refine ⟨s ++ ',' :: prettyItems level (next :: more), ?_⟩
      rw [prettyItems_cons_cons, text, List.cons_append]
  refine ⟨c, Glyph.ofText after ++ rest, fun eq => notClosing (Option.some.inj eq), ?_⟩
  rw [items, ofText_append, List.append_assoc, skipSpace_newLine, ofText_cons, List.cons_append,
    skipSpace_cons solid]

theorem skipSpace_prettyMembers (member : String × Json) (more : List (String × Json)) (level : Nat)
    (rest : List Glyph) : ∃ s,
      skipSpace (Glyph.ofText (prettyMembers level (member :: more)) ++ rest) = some '"' :: s := by
  obtain ⟨after, members⟩ : ∃ after,
      prettyMembers level (member :: more) = keyText level member.1 ++ after := by
    cases more with
    | nil => exact ⟨_, prettyMembers_singleton level member⟩
    | cons next more => exact ⟨_, prettyMembers_cons_cons level member next more⟩
  obtain ⟨inside, -, opening, -⟩ := startsMember_keyText level member.1 (Glyph.ofText after ++ rest)
  exact ⟨inside, by rw [members, ofText_append, List.append_assoc, opening]⟩

theorem ofText_enclosed (opening closing : Char) (inside level : List Char) (rest : List Glyph) :
    Glyph.ofText (opening :: (inside ++ (level ++ [closing]))) ++ rest =
      some opening :: (Glyph.ofText inside ++ (Glyph.ofText level ++ some closing :: rest)) := by
  simp [Glyph.ofText]

/-- A document without decimal literals is read back. -/
theorem IsExact.readsBack {v : Json} (exact : v.IsExact) : v.ReadsBack := by
  induction exact with
  | null =>
    intro level fuel rest _ _
    rfl
  | bool value =>
    intro level fuel rest _ _
    cases value <;> rfl
  | integer n =>
    intro level fuel rest ends _
    exact value_integer ends fuel n
  | string text =>
    intro level fuel rest _ _
    have quoted : Glyph.ofText (pretty level (.string text)) ++ rest =
        some '"' :: (Glyph.ofText (text.toList.flatMap escapeChar) ++ some '"' :: rest) := by
      simp [pretty, printLeaf, quote, Glyph.ofText]
    rw [quoted, value, skipSpace_cons (by decide)]
    simp [stringText_quote]
  | @array items exact ih =>
    intro level fuel rest _ enough
    cases items with
    | nil => rfl
    | cons item more =>
      have text : pretty level (.array (item :: more)) =
          '[' :: (prettyItems (level + 1) (item :: more) ++ (newLine level ++ [']'])) := by
        simp [pretty]
      rw [text, List.length_cons, List.length_append] at enough
      have read := items_prettyItems (level + 1) level ih
        (show 2 * (prettyItems (level + 1) (item :: more)).length ≤ fuel by omega) rest
      obtain ⟨c, s, notEmpty, head⟩ := skipSpace_prettyItems (exact item List.mem_cons_self) more
        (level + 1) (Glyph.ofText (newLine level) ++ some ']' :: rest)
      rw [text, ofText_enclosed, value_of_bracket head notEmpty, read]
      rfl
  | @object members exact ih =>
    intro level fuel rest _ enough
    cases members with
    | nil => rfl
    | cons member more =>
      have text : pretty level (.object (member :: more)) =
          '\x7b' :: (prettyMembers (level + 1) (member :: more) ++ (newLine level ++ ['\x7d'])) := by
        simp [pretty]
      rw [text, List.length_cons, List.length_append] at enough
      have read := members_prettyMembers (level + 1) level ih
        (show 2 * (prettyMembers (level + 1) (member :: more)).length ≤ fuel by omega) rest
      obtain ⟨s, head⟩ := skipSpace_prettyMembers member more (level + 1)
        (Glyph.ofText (newLine level) ++ some '\x7d' :: rest)
      rw [text, ofText_enclosed, value_of_brace head (by decide), read, ← ofMembers_some]
      rfl

/-- A document without decimal literals is read from its pretty text and a line break. -/
theorem read_pretty {v : Json} (exact : v.IsExact) : read (pretty 0 v ++ ['\n']) = some v := by
  have whole : Glyph.ofText (pretty 0 v ++ ['\n']) = Glyph.ofText (pretty 0 v) ++ [some '\n'] :=
    ofText_append _ _
  have length : (Glyph.ofText (pretty 0 v)).length = (pretty 0 v).length := List.length_map _
  have value := exact.readsBack 0 (2 * (Glyph.ofText (pretty 0 v) ++ [some '\n']).length)
    [some '\n'] ⟨_, _, rfl, .inr rfl⟩ (by rw [List.length_append, length]; omega)
  rw [read, readGlyphs, whole, value]
  rfl

end InboxAudit.Json
