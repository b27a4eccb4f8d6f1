import InboxAudit.Proofs.Text.Digits
import InboxAudit.Proofs.Text.Parts
import InboxAudit.Proofs.Toml.Strings
import InboxAudit.Toml.Reader

/-!
# Values read back

What is written for a setting is read back as its value (`readValue?_print`): a number by its
digits, which are neither a date nor a fraction (`scalar?_toDigits`), a text by its string, and a list
item by item (`readItems?_textLines`).
-/

namespace InboxAudit.Toml
set_option autoImplicit false

open InboxAudit.Text (pieces pieces_of_none splitFirst? digitsValue digitValue isDigitOf
  digitsValue_toDigits isDigit_of_mem_toDigits not_leading_zero exists_digit_of_toDigits)

section Scalars

variable {word rest : List Char}

/-- A scalar ends before a comma, a bracket or a line break. -/
theorem readScalar_append (all : word.all isScalarChar = true) (noDate : isDate word = false)
    (ends : Ends rest) : readScalar (word ++ rest) = (scalar? word).map (·, rest) := by
  rw [List.all_eq_true] at all
  obtain ⟨c, more, rfl, stop⟩ := ends
  have stops : isScalarChar c = false := by rcases stop with rfl | rfl | rfl <;> rfl
  have taken : (word ++ c :: more).takeWhile isScalarChar = word := by
    rw [List.takeWhile_append_of_pos all, List.takeWhile_cons_of_neg (by simp [stops]),
      List.append_nil]
  have left : (word ++ c :: more).dropWhile isScalarChar = c :: more := by
    rw [List.dropWhile_append_of_pos all, List.dropWhile_cons_of_neg (by simp [stops])]
  rw [readScalar, taken, left, noDate]

/-- The word is made of one or more decimal digits. -/
structure IsDecimal (word : List Char) : Prop where
  filled : word ≠ []
  digits : ∀ c ∈ word, c.isDigit = true

theorem isDecimal_toDigits (n : Nat) : IsDecimal (Nat.toDigits 10 n) :=
  ⟨Nat.toDigits_ne_nil, fun _ => isDigit_of_mem_toDigits⟩

namespace IsDecimal

/-- A word that holds anything else is another one. -/
theorem ne (decimal : IsDecimal word) {c : Char} {other : List Char} (mem : c ∈ other)
    (letter : c.isDigit = false) : word ≠ other := by
  rintro rfl
  rw [decimal.digits c mem] at letter
  cases letter

theorem pieces_mark (decimal : IsDecimal word) {mark : Char} (noDigit : mark.isDigit = false) :
    pieces (· = mark) word = [word] := by
  refine pieces_of_none fun c mem => decide_eq_false ?_
  rintro rfl
  rw [decimal.digits c mem] at noDigit
  cases noDigit

theorem isDate_eq_false (decimal : IsDecimal word) : isDate word = false := by
  rw [isDate, decimal.pieces_mark (by decide)]

theorem take (decimal : IsDecimal word) (n : Nat) : IsDecimal (word.take (n + 1)) where
  filled := by simpa using decimal.filled
  digits c mem := decimal.digits c (List.mem_of_mem_take mem)

theorem time?_eq_none (decimal : IsDecimal word) : time? word = none := by
  have noTime : isTime word = false := by rw [isTime, decimal.pieces_mark (by decide)]
  simp [time?, decimal.isDate_eq_false, (decimal.take 9).isDate_eq_false, noTime]

theorem splitSign_eq (decimal : IsDecimal word) : splitSign word = (false, word) := by
  unfold splitSign
  split
  · exact absurd rfl (decimal.ne (c := '+') List.mem_cons_self rfl)
  · exact absurd rfl (decimal.ne (c := '-') List.mem_cons_self rfl)
  · rfl

theorem splitFirst?_eq_none (decimal : IsDecimal word) {p : Char → Bool}
    (noDigit : ∀ c, c.isDigit = true → p c = false) : splitFirst? p word = none := by
  have all : ∀ c ∈ word, (!p c) = true := fun c mem => by simp [noDigit c (decimal.digits c mem)]
  have dropped : word.dropWhile (fun c => !p c) = [] := by
    rw [← List.append_nil word, List.dropWhile_append_of_pos all, List.dropWhile_nil]
  rw [splitFirst?, dropped]

theorem float?_eq_none (decimal : IsDecimal word) : float? word = none := by
  have infinite : word ≠ ['i', 'n', 'f'] := decimal.ne (c := 'i') (by decide) rfl
  have undefined : word ≠ ['n', 'a', 'n'] := decimal.ne (c := 'n') (by decide) rfl
  have noExponent : splitFirst? (fun c => c = 'e' || c = 'E') word = none := by
    refine decimal.splitFirst?_eq_none fun c digit => ?_
    rw [Bool.or_eq_false_iff]
    constructor <;> (refine decide_eq_false ?_; rintro rfl; cases digit)
  have noFraction : splitFirst? (· = '.') word = none := by
    refine decimal.splitFirst?_eq_none fun c digit => decide_eq_false ?_
    rintro rfl
    cases digit
  simp [float?, decimal.splitSign_eq, infinite, undefined, noExponent, noFraction]

theorem digits?_eq (decimal : IsDecimal word) : digits? 10 word = some word := by
  have ten : ∀ c ∈ word, isDigitOf 10 c = true := by
    intro c mem
    have digit := decimal.digits c mem
    have nine : '9'.toNat = 57 := rfl
    have bounds := Char.isDigit_iff_toNat.1 digit
    simp only [isDigitOf, digitValue, digit, if_true, decide_eq_true_eq]
    omega
  simpa [digits?, decimal.pieces_mark (show '_'.isDigit = false by rfl), decimal.filled] using ten

end IsDecimal

theorem bounded?_eq {n : Int} (fits : isInteger n = true) : bounded? n = some (.integer n) :=
  if_pos fits

theorem integer?_toDigits {n : Nat} (fits : isInteger n = true) :
    integer? (Nat.toDigits 10 n) = some (.integer n) := by
  have decimal := isDecimal_toDigits n
  unfold integer?
  -- Another base is named by a letter.
  split
  · next eq => exact absurd eq (decimal.ne (c := 'x') (by simp) rfl)
  · next eq => exact absurd eq (decimal.ne (c := 'o') (by simp) rfl)
  · next eq => exact absurd eq (decimal.ne (c := 'b') (by simp) rfl)
  · rw [decimal.splitSign_eq]
    have whole : wholeDigits? (Nat.toDigits 10 n) = some (Nat.toDigits 10 n) := by
      rw [wholeDigits?, if_neg (not_leading_zero n), decimal.digits?_eq]
    show (wholeDigits? (Nat.toDigits 10 n)).bind (fun ds => bounded? (digitsValue 10 ds)) = _
    rw [whole, Option.bind_some, digitsValue_toDigits, bounded?_eq fits]

theorem scalar?_toDigits {n : Nat} (fits : isInteger n = true) :
    scalar? (Nat.toDigits 10 n) = some (.integer n) := by
  have decimal := isDecimal_toDigits n
  have yes : Nat.toDigits 10 n ≠ "true".toList := decimal.ne (c := 't') (by decide) rfl
  have no : Nat.toDigits 10 n ≠ "false".toList := decimal.ne (c := 'f') (by decide) rfl
  rw [scalar?, if_neg yes, if_neg no, decimal.time?_eq_none, decimal.float?_eq_none,
    integer?_toDigits fits]
  rfl

theorem readScalar_number {n : Nat} (fits : isInteger n = true) (ends : Ends rest) :
    readScalar ((toString n).toList ++ rest) = some (.integer n, rest) := by
  have decimal := isDecimal_toDigits n
  have text : (toString n).toList = Nat.toDigits 10 n := by simp
  have all : (Nat.toDigits 10 n).all isScalarChar = true := by
    refine List.all_eq_true.2 fun c mem => ?_
    have digit := decimal.digits c mem
    simp [isScalarChar, Char.isAlphanum, digit]
  rw [text, readScalar_append all decimal.isDate_eq_false ends, scalar?_toDigits fits]
  rfl

theorem readScalar_flag (value : Bool) (ends : Ends rest) :
    readScalar ((if value then "true".toList else "false".toList) ++ rest) =
      some (.boolean value, rest) := by
  cases value with
  | true => exact readScalar_append (by decide) (by decide) ends
  | false => exact readScalar_append (by decide) (by decide) ends

end Scalars

section Space

theorem skipLines_solid {c : Char} (solid : isBlank c = false) (notComment : c ≠ '#')
    (s : List Char) : skipLines false (c :: s) = c :: s := by
  simp only [isBlank, Bool.or_eq_false_iff, decide_eq_false_iff_not] at solid
  simp [skipLines, solid, notComment]

theorem skipLines_blanks (blanks : List Char) (all : blanks.all isBlank = true)
    (s : List Char) : skipLines false (blanks ++ s) = skipLines false s := by
  induction blanks with
  | nil => rfl
  | cons c blanks ih =>
    rw [List.all_cons, Bool.and_eq_true] at all
    obtain ⟨blank, all⟩ := all
    have later := ih all
    simp only [isBlank, Bool.or_eq_true, decide_eq_true_eq] at blank
    rcases blank with space | rfl <;> simp [skipLines, *]

end Space

section Texts

variable {fuel levels : Nat} {rest : List Char}

theorem printString_eq_cons (s : List Char) :
    ∃ mark body, printString s = mark :: body ∧ (mark = '"' ∨ mark = '\'') := by
  rw [printString]
  split
  · exact ⟨_, _, rfl, .inl rfl⟩
  · exact ⟨_, _, rfl, .inr rfl⟩
  · exact ⟨_, _, rfl, .inl rfl⟩
  · exact ⟨_, _, rfl, .inr rfl⟩

theorem readValue?_printString (text : String) (ends : Ends rest) :
    readValue? (fuel + 1) levels (printString text.toList ++ rest) = some (.string text, rest) := by
  have read := readString?_printString text.toList ends
  obtain ⟨mark, body, printed, rfl | rfl⟩ := printString_eq_cons text.toList
  all_goals
    rw [printed, List.cons_append] at read ⊢
    rw [readValue?, read, Option.map_some]
    simp only [String.ofList_toList]

theorem skipLines_printString (s rest : List Char) :
    skipLines false (printString s ++ rest) = printString s ++ rest := by
  obtain ⟨mark, body, printed, rfl | rfl⟩ := printString_eq_cons s
  all_goals
    rw [printed, List.cons_append]
    exact skipLines_solid (by decide) (by decide) _

/-- The lines of a list of texts. -/
def textLines (items : List String) : List Char :=
  commaLines (items.map fun item => printString item.toList)

theorem textLines_cons (item : String) (more : List String) (rest : List Char) :
    textLines (item :: more) ++ rest = "    ".toList ++
      (printString item.toList ++ ',' :: '\n' :: (textLines more ++ rest)) := by
  simp [textLines, commaLines]

theorem skipLines_textLines (item : String) (more : List String) (rest : List Char) :
    skipLines false ('\n' :: (textLines (item :: more) ++ rest)) =
      printString item.toList ++ ',' :: '\n' :: (textLines more ++ rest) := by
  rw [textLines_cons]
  exact (skipLines_blanks ('\n' :: "    ".toList) (by decide) _).trans (skipLines_printString _ _)

theorem ends_comma (s : List Char) : Ends (',' :: s) := ⟨_, s, rfl, .inl rfl⟩

theorem ends_bracket (s : List Char) : Ends (']' :: s) := ⟨_, s, rfl, .inr (.inl rfl)⟩

section Items

variable {s rest' rest'' : List Char} {item : Toml} {more : List Toml}

theorem skipLines_comma (s : List Char) : skipLines false (',' :: s) = ',' :: s :=
  skipLines_solid (by decide) (by decide) s

theorem skipLines_bracket (s : List Char) : skipLines false (']' :: s) = ']' :: s :=
  skipLines_solid (by decide) (by decide) s

theorem readItems?_of_bracket (read : readValue? fuel levels s = some (item, ']' :: rest)) :
    readItems? (fuel + 1) levels s = some ([item], rest) := by
  simp [readItems?, read, skipLines_bracket]

theorem readItems?_of_closing (read : readValue? fuel levels s = some (item, ',' :: rest))
    (closing : skipLines false rest = ']' :: rest') :
    readItems? (fuel + 1) levels s = some ([item], rest') := by
  simp [readItems?, read, skipLines_comma, closing]

theorem readItems?_of_comma {t : List Char}
    (read : readValue? fuel levels s = some (item, ',' :: rest))
    (next : skipLines false rest = printString t ++ rest')
    (later : readItems? fuel levels (printString t ++ rest') = some (more, rest'')) :
    readItems? (fuel + 1) levels s = some (item :: more, rest'') := by
  obtain ⟨mark, body, printed, isMark⟩ := printString_eq_cons t
  have notClosing : mark ≠ ']' := by rcases isMark with rfl | rfl <;> decide
  rw [printed, List.cons_append] at next later
  simp [readItems?, read, skipLines_comma, next, notClosing, later]

end Items

theorem skipLines_closing (rest : List Char) :
    skipLines false ('\n' :: ']' :: rest) = ']' :: rest :=
  (skipLines_blanks ['\n'] (by decide) _).trans (skipLines_bracket rest)

/-- The items of a list are read back up to the closing bracket. -/
theorem readItems?_textLines (item : String) (more : List String)
    (enough : more.length + 2 ≤ fuel) (rest : List Char) :
    readItems? fuel levels
      (printString item.toList ++ ',' :: '\n' :: (textLines more ++ ']' :: rest)) =
        some ((item :: more).map .string, rest) := by
  induction more generalizing item fuel with
  | nil =>
    obtain ⟨k, rfl⟩ : ∃ k, fuel = k + 2 := ⟨fuel - 2, by simp at enough; omega⟩
    exact readItems?_of_closing (readValue?_printString item (ends_comma _)) (skipLines_closing rest)
  | cons next more ih =>
    rw [List.length_cons] at enough
    obtain ⟨k, rfl⟩ : ∃ k, fuel = k + 2 := ⟨fuel - 2, by omega⟩
    have later := ih next (show more.length + 2 ≤ k + 1 by omega)
    exact readItems?_of_comma (readValue?_printString item (ends_comma _))
      (skipLines_textLines next more (']' :: rest)) later

end Texts

section Settings

variable {fuel levels : Nat} {rest text : List Char}

theorem readValue?_scalar {c : Char} (plain : c.isAlphanum = true) (s : List Char) :
    readValue? (fuel + 1) levels (c :: s) = readScalar (c :: s) := by
  rw [readValue?]
  all_goals
    intro more eq
    obtain ⟨rfl, -⟩ := List.cons.inj eq
    cases plain

theorem readValue?_number {n : Nat} (fits : isInteger n = true) (ends : Ends rest) :
    readValue? (fuel + 1) levels ((toString n).toList ++ rest) = some (.integer n, rest) := by
  have read := readScalar_number fits ends
  obtain ⟨d, more, digits, digit⟩ := exists_digit_of_toDigits n
  have written : (toString n).toList = d :: more := by simp [digits]
  rw [written, List.cons_append] at read ⊢
  rw [readValue?_scalar (by rw [Char.isAlphanum, digit, Bool.or_true]), read]

theorem readValue?_flag (value : Bool) (ends : Ends rest) :
    readValue? (fuel + 1) levels
      ((if value then "true".toList else "false".toList) ++ rest) = some (.boolean value, rest) := by
  rw [← readScalar_flag value ends]
  cases value with
  | true => exact readValue?_scalar (c := 't') (by decide) _
  | false => exact readValue?_scalar (c := 'f') (by decide) _

theorem readValue?_list {s t more : List Char} (first : skipLines false s = printString t ++ more) :
    readValue? (fuel + 1) (levels + 1) ('[' :: s) =
      (readItems? fuel levels (printString t ++ more)).map
        fun (items, rest) => (.array items, rest) := by
  obtain ⟨mark, body, printed, isMark⟩ := printString_eq_cons t
  rw [printed, List.cons_append] at first ⊢
  rcases isMark with rfl | rfl <;> simp [readValue?, first]

theorem length_lt_length_textLines (item : String) (more : List String) :
    more.length < (textLines (item :: more)).length := by
  induction more generalizing item with
  | nil => simp [textLines, commaLines]
  | cons next more ih =>
    have later := ih next
    have length := congrArg List.length (textLines_cons item (next :: more) [])
    simp only [List.append_nil, List.length_append, List.length_cons] at length ⊢
    omega

theorem readValue?_texts (items : List String) (enough : (printStrings items).length ≤ fuel + 1)
    (rest : List Char) : readValue? (fuel + 1) (levels + 1) (printStrings items ++ rest) =
      some (.array (items.map .string), rest) := by
  match items with
  | [] => simp [printStrings, readValue?, skipLines_bracket]
  | [item] =>
    have written : printStrings [item] ++ rest =
        '[' :: (printString item.toList ++ ']' :: rest) := by
      simp [printStrings]
    obtain ⟨k, rfl⟩ : ∃ k, fuel = k + 2 := by
      obtain ⟨mark, body, printed, -⟩ := printString_eq_cons item.toList
      simp only [printStrings, printed, List.length_cons, List.length_append] at enough
      exact ⟨fuel - 2, by omega⟩
    have read : readValue? (k + 1) levels (printString item.toList ++ ']' :: rest) =
        some (.string item, ']' :: rest) := readValue?_printString item (ends_bracket rest)
    rw [written, readValue?_list (skipLines_printString _ _), readItems?_of_bracket read]
    rfl
  | item :: next :: more =>
    have written : printStrings (item :: next :: more) ++ rest =
        '[' :: '\n' :: (textLines (item :: next :: more) ++ ']' :: rest) := by
      simp [printStrings, textLines]
    have long := length_lt_length_textLines item (next :: more)
    have length := congrArg List.length written
    simp only [List.length_append, List.length_cons] at long length
    have few : (next :: more).length + 2 ≤ fuel := by
      rw [List.length_cons]
      omega
    rw [written, readValue?_list (skipLines_textLines item (next :: more) _),
      readItems?_textLines item (next :: more) few rest]
    rfl

/-- What is written for a setting is read back. -/
theorem readValue?_print {setting : Setting} (printed : setting.print? = some text)
    (enough : text.length ≤ fuel + 1) (ends : Ends rest) :
    readValue? (fuel + 1) (levels + 1) (text ++ rest) = some (setting.toToml, rest) := by
  cases setting with
  | number n =>
    simp only [Setting.print?, Option.ite_none_right_eq_some, Option.some.injEq] at printed
    obtain ⟨fits, rfl⟩ := printed
    exact readValue?_number fits ends
  | flag value =>
    cases printed
    exact readValue?_flag value ends
  | text s =>
    cases printed
    exact readValue?_printString s ends
  | texts items =>
    cases printed
    exact readValue?_texts items enough rest

/-- What is written for a setting does not begin with a space. -/
theorem skipSpace_print {setting : Setting} (printed : setting.print? = some text)
    (rest : List Char) : skipSpace (text ++ rest) = text ++ rest := by
  suffices first : ∃ c more, text = c :: more ∧ isSpace c = false by
    obtain ⟨c, more, rfl, solid⟩ := first
    rw [List.cons_append, skipSpace, List.dropWhile_cons_of_neg (by simp [solid])]
  cases setting with
  | number n =>
    simp only [Setting.print?, Option.ite_none_right_eq_some, Option.some.injEq] at printed
    obtain ⟨d, more, digits, digit⟩ := exists_digit_of_toDigits n
    refine ⟨d, more, by simp [← printed.2, digits], ?_⟩
    rw [isSpace, Bool.or_eq_false_iff]
    constructor <;> (refine decide_eq_false ?_; rintro rfl; cases digit)
  | flag value =>
    cases printed
    cases value <;> exact ⟨_, _, rfl, by decide⟩
  | text s =>
    cases printed
    obtain ⟨mark, body, printed, rfl | rfl⟩ := printString_eq_cons s.toList
    all_goals exact ⟨_, body, printed, by decide⟩
  | texts items =>
    cases printed
    rcases items with _ | ⟨item, _ | ⟨next, more⟩⟩
    all_goals exact ⟨_, _, rfl, by decide⟩

/-- What is written for a setting has no carriage return in it. -/
theorem noReturn_print {setting : Setting} (printed : setting.print? = some text) :
    '\r' ∉ text := by
  cases setting with
  | number n =>
    simp only [Setting.print?, Option.ite_none_right_eq_some, Option.some.injEq] at printed
    intro mem
    have digit := (isDecimal_toDigits n).digits '\r' (by simpa [← printed.2] using mem)
    cases digit
  | flag value =>
    cases printed
    cases value <;> decide
  | text s =>
    cases printed
    exact noReturn_printString s.toList
  | texts items =>
    cases printed
    match items with
    | [] => decide
    | [item] => simp [printStrings, noReturn_printString]
    | item :: next :: more => simp [printStrings, commaLines, noReturn_printString]

end Settings

end InboxAudit.Toml
