import InboxAudit.Proofs.Text.Digits
import InboxAudit.Proofs.Time.Calendar
import InboxAudit.Time.Instant

/-!
# Instants read back

Every part of an RFC 3339 text ends before a mark, so each is read back alone, and the whole text
gives the instant back (`Instant.IsProper.readsBack`).
-/

namespace InboxAudit.Time.Instant
set_option autoImplicit false

open InboxAudit.Text (isBlank blankRanges inRanges_iff digitsValue digitsValue_eq_ofDigitChars
  isDigit_of_mem_toDigits)

section Digits

theorem isDigit_of_mem_padded {width n : Nat} {c : Char} (mem : c ∈ padded width n) :
    c.isDigit = true := by
  rcases List.mem_append.1 mem with zero | digit
  · rw [List.eq_of_mem_replicate zero]
    rfl
  · rw [Nat.toString_eq_repr, Nat.repr, String.toList_ofList] at digit
    exact isDigit_of_mem_toDigits digit

theorem digitsValue_padded (width n : Nat) : digitsValue 10 (padded width n) = n := by
  rw [digitsValue_eq_ofDigitChars fun c => isDigit_of_mem_padded, padded,
    Nat.ofDigitChars_append, Nat.ofDigitChars_replicate_zero, Nat.mul_zero, Nat.toString_eq_repr,
    Nat.repr, String.toList_ofList, Nat.ofDigitChars_ten_toDigits]

theorem length_padded {width n : Nat} (wide : 0 < width) (small : n < Numbers.tens width) :
    (padded width n).length = width := by
  have fits : (Nat.toDigits 10 n).length ≤ width :=
    (Nat.length_toDigits_le_iff (by decide) wide).2 small
  simp [padded]
  omega

theorem isBlank_of_isDigit {c : Char} (digit : c.isDigit = true) : isBlank c = false := by
  have range : 48 ≤ c.toNat ∧ c.toNat ≤ 57 := by
    simp only [Char.isDigit, Bool.and_eq_true, decide_eq_true_eq, UInt32.le_iff_toNat_le] at digit
    exact digit
  rw [isBlank, Bool.eq_false_iff]
  intro blank
  rw [inRanges_iff] at blank
  simp only [blankRanges, List.mem_cons, List.not_mem_nil, or_false, exists_eq_or_imp,
    exists_eq_left] at blank
  omega

theorem skipBlank_cons {c : Char} (solid : isBlank c = false) (s : List Char) :
    skipBlank (c :: s) = c :: s := by
  rw [skipBlank, List.dropWhile_cons_of_neg (by simp [solid])]

variable {mark : Char} {ds : List Char}

/-- Digits are read up to a mark. -/
theorem digits?_append (decimal : ∀ c ∈ ds, c.isDigit = true) (filled : ds ≠ [])
    {limit : Nat} (fits : ds.length ≤ limit) (stop : mark.isDigit = false) (rest : List Char) :
    digits? limit (ds ++ mark :: rest) = some (ds, mark :: rest) := by
  have taken : ((ds ++ mark :: rest).take limit).takeWhile Char.isDigit = ds := by
    rw [List.take_append, List.take_of_length_le fits, List.takeWhile_append_of_pos decimal]
    cases limit - ds.length <;> simp [stop]
  rw [digits?, taken]
  split
  · exact absurd rfl filled
  · rw [List.drop_left]

end Digits

section Parts

variable {mark : Char} {n : Nat}

theorem padded_ne_nil (width n : Nat) : padded width n ≠ [] := by
  rw [padded, Nat.toString_eq_repr, Nat.repr, String.toList_ofList]
  exact List.append_ne_nil_of_right_ne_nil _ Nat.toDigits_ne_nil

theorem exists_digit_of_padded (width n : Nat) :
    ∃ d more, padded width n = d :: more ∧ d.isDigit = true := by
  obtain ⟨d, more, digits⟩ := List.exists_cons_of_ne_nil (padded_ne_nil width n)
  exact ⟨d, more, digits, isDigit_of_mem_padded (by rw [digits]; exact List.mem_cons_self)⟩

theorem digits?_padded {width limit : Nat} (fits : (padded width n).length ≤ limit)
    (stop : mark.isDigit = false) (rest : List Char) :
    digits? limit (padded width n ++ mark :: rest) = some (padded width n, mark :: rest) :=
  digits?_append (fun _ => isDigit_of_mem_padded) (padded_ne_nil width n) fits stop rest

theorem skipBlank_padded (width n : Nat) (rest : List Char) :
    skipBlank (padded width n ++ rest) = padded width n ++ rest := by
  obtain ⟨d, more, digits, digit⟩ := exists_digit_of_padded width n
  rw [digits, List.cons_append, skipBlank_cons (isBlank_of_isDigit digit)]

theorem mark?_cons (solid : isBlank mark = false) (rest : List Char) :
    mark? mark (mark :: rest) = some rest := by
  simp [mark?, skipBlank_cons solid]

theorem short?_padded (small : n < 100) (stop : mark.isDigit = false) (rest : List Char) :
    short? (padded 2 n ++ mark :: rest) = some (n, mark :: rest) := by
  have length : (padded 2 n).length = 2 := length_padded (by decide) small
  rw [short?, skipBlank_padded, digits?_padded (by omega) stop]
  simp only [Option.map_some, digitsValue_padded]

theorem year?_of_digit {d : Char} (digit : d.isDigit = true) (s : List Char) :
    year? (d :: s) =
      (digits? 4 (d :: s)).map fun (ds, rest) => ((digitsValue 10 ds : Int), rest) := by
  rw [year?, skipBlank_cons (isBlank_of_isDigit digit)]
  split
  · next eq => cases eq; cases digit
  · next eq => cases eq; cases digit
  · rfl

theorem year?_minus (s : List Char) : year? ('-' :: s) =
    (digits? s.length s).map fun (ds, rest) => (-(digitsValue 10 ds : Int), rest) := by
  rw [year?, skipBlank_cons (by decide)]
  rfl

theorem year?_plus (s : List Char) : year? ('+' :: s) =
    (digits? s.length s).map fun (ds, rest) => ((digitsValue 10 ds : Int), rest) := by
  rw [year?, skipBlank_cons (by decide)]
  rfl

theorem year?_writeYear (year : Int) (rest : List Char) :
    year? (writeYear year ++ '-' :: rest) = some (year, '-' :: rest) := by
  unfold writeYear
  split
  · next plain =>
    have length : (padded 4 year.toNat).length = 4 := length_padded (by decide) (show year.toNat < 10000 by omega)
    have read : digits? 4 (padded 4 year.toNat ++ '-' :: rest) =
        some (padded 4 year.toNat, '-' :: rest) :=
      digits?_padded (Nat.le_of_eq length) (by decide) rest
    have value := digitsValue_padded 4 year.toNat
    obtain ⟨d, more, digits, digit⟩ := exists_digit_of_padded 4 year.toNat
    rw [digits] at read value ⊢
    rw [List.cons_append, year?_of_digit digit, ← List.cons_append, read]
    simp only [Option.map_some, value, Int.toNat_of_nonneg plain.1]
  · have read : digits? (padded 4 year.natAbs ++ '-' :: rest).length
        (padded 4 year.natAbs ++ '-' :: rest) = some (padded 4 year.natAbs, '-' :: rest) :=
      digits?_padded (by simp) (by decide) rest
    split
    · next negative =>
      have value : -(year.natAbs : Int) = year := by omega
      rw [List.cons_append, year?_minus, read]
      simp only [Option.map_some, digitsValue_padded, value]
    · next plus =>
      have value : (year.natAbs : Int) = year := by omega
      rw [List.cons_append, year?_plus, read]
      simp only [Option.map_some, digitsValue_padded, value]

theorem fraction?_padded {width : Nat} (wide : 0 < width) (narrow : width ≤ 9)
    (small : n < Numbers.tens width) (rest : List Char) :
    fraction? ('.' :: padded width n ++ 'Z' :: rest) =
      some (n * Numbers.tens (9 - width), 'Z' :: rest) := by
  have length := length_padded wide small
  have read : digits? 9 (padded width n ++ 'Z' :: rest) = some (padded width n, 'Z' :: rest) :=
    digits?_padded (by rwa [length]) (by decide) rest
  simp [fraction?, read, digitsValue_padded, length]

theorem fraction?_writeFraction {nanos : Nat} (small : nanos < 1000000000) (rest : List Char) :
    fraction? (writeFraction nanos ++ 'Z' :: rest) = some (nanos, 'Z' :: rest) := by
  unfold writeFraction
  split
  · next zero => rw [zero]; rfl
  split
  · next millis =>
    have small : nanos / 1000000 < Numbers.tens 3 := show nanos / 1000000 < 1000 by omega
    rw [fraction?_padded (by decide) (by decide) small, show Numbers.tens (9 - 3) = 1000000 by rfl,
      Nat.div_mul_cancel (Nat.dvd_of_mod_eq_zero millis)]
  split
  · next micros =>
    have small : nanos / 1000 < Numbers.tens 6 := show nanos / 1000 < 1000000 by omega
    rw [fraction?_padded (by decide) (by decide) small, show Numbers.tens (9 - 6) = 1000 by rfl,
      Nat.div_mul_cancel (Nat.dvd_of_mod_eq_zero micros)]
  · rw [fraction?_padded (by decide) (by decide) small, show Numbers.tens (9 - 9) = 1 by rfl,
      Nat.mul_one]

theorem exists_mark_of_writeFraction (nanos : Nat) (rest : List Char) :
    ∃ mark more, writeFraction nanos ++ 'Z' :: rest = mark :: more ∧ mark.isDigit = false := by
  unfold writeFraction
  split
  · exact ⟨'Z', rest, rfl, by decide⟩
  · split
    · exact ⟨'.', _, rfl, by decide⟩
    · split <;> exact ⟨'.', _, rfl, by decide⟩

end Parts

theorem month_day_of_isValid {date : Date} (valid : date.isValid = true) :
    date.month < 100 ∧ date.day < 100 := by
  have length : daysInMonth date.year date.month ≤ 31 := by
    unfold daysInMonth
    split
    · split <;> omega
    · split <;> omega
  simp only [Date.isValid, Bool.and_eq_true, decide_eq_true_eq] at valid
  omega

theorem some_bind {α β : Type} (a : α) (next : α → Option β) : (some a >>= next) = next a := rfl

/-- The instant of a date and a time of day in UTC. -/
theorem read_parts {date : Date} {hour minute second nanos : Nat} (valid : date.isValid = true)
    (dated : inCalendar date.year = true) (hours : hour < 24) (minutes : minute < 60)
    (seconds : second ≤ 60) (fraction : nanos < 1000000000) :
    read (String.ofList (writeYear date.year ++ '-' :: padded 2 date.month ++
      '-' :: padded 2 date.day ++ 'T' :: padded 2 hour ++ ':' :: padded 2 minute ++
      ':' :: padded 2 second ++ writeFraction nanos ++ ['Z'])) =
    let leap := if second = 60 then 1 else 0
    let seconds : Int :=
      date.toDays * 86400 + ((hour * 3600 + minute * 60 + second - leap : Nat) : Int)
    if inCalendar (Date.ofDays (seconds / 86400)).year then
      some ⟨seconds, nanos + leap * 1000000000⟩
    else none := by
  obtain ⟨month, day⟩ := month_day_of_isValid valid
  have colon : isBlank ':' = false ∧ ':'.isDigit = false := by decide
  have dash : isBlank '-' = false ∧ '-'.isDigit = false := by decide
  have zulu : offset? (skipBlank ['Z']) = some (0, []) := by decide
  have readFraction := fraction?_writeFraction fraction []
  obtain ⟨mark, more, text, stop⟩ := exists_mark_of_writeFraction nanos []
  rw [text] at readFraction
  have inRange : ¬(skipBlank [] ≠ [] ∨ (!date.isValid) = true ∨ (!inCalendar date.year) = true ∨
      hour > 23 ∨ minute > 59 ∨ second > 60 ∨ (0 : Int).natAbs ≥ 86400) := by
    simp [skipBlank, valid, dated]
    omega
  simp only [List.append_assoc, List.cons_append, text]
  rw [read, String.toList_ofList, year?_writeYear]
  simp only [some_bind, mark?_cons dash.1, mark?_cons colon.1, short?_padded month dash.2,
    short?_padded day (show 'T'.isDigit = false by decide),
    short?_padded (show hour < 100 by omega) colon.2,
    short?_padded (show minute < 100 by omega) colon.2,
    short?_padded (show second < 100 by omega) stop, readFraction, zulu, true_or, if_true,
    Option.pure_def, Int.sub_zero]
  rw [if_neg inRange]

/-- What instants are: a date of the calendar, and a fraction that runs past one second only in the
last second of a minute. -/
structure IsProper (t : Instant) : Prop where
  dated : inCalendar (Date.ofDays (t.seconds / 86400)).year = true
  fraction : t.nanos < 1000000000 ∨ t.nanos < 2000000000 ∧ t.seconds % 60 = 59

/-- A proper instant is read back from its text. -/
theorem IsProper.readsBack {t : Instant} (proper : t.IsProper) : read t.write = some t := by
  obtain ⟨dated, fraction⟩ := proper
  obtain ⟨date, date_eq⟩ : ∃ date, Date.ofDays (t.seconds / 86400) = date := ⟨_, rfl⟩
  obtain ⟨second, second_eq⟩ : ∃ second, (t.seconds % 86400).toNat = second := ⟨_, rfl⟩
  obtain ⟨leap, leap_eq⟩ : ∃ leap, t.nanos / 1000000000 = leap := ⟨_, rfl⟩
  have valid : date.isValid = true := date_eq ▸ Date.isValid_ofDays _
  have days : date.toDays = t.seconds / 86400 := date_eq ▸ Date.toDays_ofDays _
  have readLeap : (if second % 60 + leap = 60 then 1 else 0) = leap := by
    split <;> omega
  have readSeconds : t.seconds / 86400 * 86400 +
      ((second / 3600 * 3600 + second / 60 % 60 * 60 + (second % 60 + leap) - leap : Nat) : Int) =
        t.seconds := by omega
  simp only [write, date_eq, second_eq, leap_eq]
  rw [read_parts valid (date_eq ▸ dated) (by omega) (by omega) (by omega) (by omega)]
  simp only [readLeap, days, readSeconds, dated, if_true]
  congr 2
  omega

end InboxAudit.Time.Instant
