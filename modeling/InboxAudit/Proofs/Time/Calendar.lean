import InboxAudit.Time.Calendar

/-!
# The date of a day

Every day has a date that exists (`Date.isValid_ofDays`), and the date gives the day back
(`Date.toDays_ofDays`).
-/

namespace InboxAudit.Time
set_option autoImplicit false

section Year

/-- Days from 1970-01-01 to the first of March of a year. -/
def marchFirst (year : Int) : Int :=
  365 * year + year / 4 - year / 100 + year / 400 - 719468

/-- A day of an era of 400 years by its century, cycle of four years, year and day of the year. Only
the last year of a cycle has 366 days, and the last cycle of a century has no such year unless the
era ends. -/
theorem exists_partsOfEra {d : Int} (low : 0 ≤ d) (high : d < 146097) :
    ∃ century cycle year day : Int, d = 36524 * century + 1461 * cycle + 365 * year + day ∧
      d / 36524 - d / 146096 = century ∧ (0 ≤ century ∧ century ≤ 3) ∧ (0 ≤ cycle ∧ cycle ≤ 24) ∧
      (0 ≤ year ∧ year ≤ 3) ∧ (0 ≤ day ∧ day ≤ 365) ∧
      (day = 365 → year = 3 ∧ (cycle = 24 → century = 3)) := by
  obtain ⟨century, r, split, quotient, centuries, rest⟩ : ∃ century r : Int,
      d = 36524 * century + r ∧ d / 36524 - d / 146096 = century ∧ (0 ≤ century ∧ century ≤ 3) ∧
        (0 ≤ r ∧ r ≤ 36524 ∧ (r = 36524 → century = 3)) :=
    ⟨d / 36524 - d / 146096, d - 36524 * (d / 36524 - d / 146096), by omega⟩
  obtain ⟨cycle, s, rfl, cycles, within⟩ : ∃ cycle s : Int, r = 1461 * cycle + s ∧
      (0 ≤ cycle ∧ cycle ≤ 24) ∧ (0 ≤ s ∧ s ≤ 1460) := ⟨r / 1461, r % 1461, by omega⟩
  obtain ⟨year, day, rfl, years, days⟩ : ∃ year day : Int, s = 365 * year + day ∧
      (0 ≤ year ∧ year ≤ 3) ∧ (0 ≤ day ∧ day ≤ 365 ∧ (day = 365 → year = 3)) :=
    ⟨s / 365 - s / 1460, s - 365 * (s / 365 - s / 1460), by omega⟩
  exact ⟨century, cycle, year, day, by omega⟩

/-- The division by 1460 counts the leap days before the day, so that 365 divides what is left. -/
theorem yearOfEra_eq {century cycle year day d : Int}
    (split : d = 36524 * century + 1461 * cycle + 365 * year + day)
    (centuries : 0 ≤ century ∧ century ≤ 3) (cycles : 0 ≤ cycle ∧ cycle ≤ 24)
    (years : 0 ≤ year ∧ year ≤ 3) (days : 0 ≤ day ∧ day ≤ 365) (leap : day = 365 → year = 3) :
    (d - d / 1460 + century) / 365 = 100 * century + 4 * cycle + year := by
  by_cases early : 24 * century + cycle + 365 * year + day < 1460
  · have leapDays : d / 1460 = 25 * century + cycle := by omega
    omega
  · have leapDays : d / 1460 = 25 * century + cycle + 1 := by omega
    omega

/-- A day of an era by its year and the day of that year. -/
theorem exists_yearOfEra {d : Int} (low : 0 ≤ d) (high : d < 146097) :
    ∃ year day : Int, (d - d / 1460 + d / 36524 - d / 146096) / 365 = year ∧
      d - (365 * year + year / 4 - year / 100) = day ∧ (0 ≤ year ∧ year ≤ 399) ∧
      (0 ≤ day ∧ day ≤ 365) ∧
      (day = 365 → (year + 1) % 4 = 0 ∧ ((year + 1) % 100 = 0 → year = 399)) := by
  obtain ⟨century, cycle, year, day, split, quotient, centuries, cycles, years, days, leap⟩ :=
    exists_partsOfEra low high
  have counted : d - d / 1460 + d / 36524 - d / 146096 = d - d / 1460 + century := by
    rw [← quotient]
    omega
  have yearOfEra := yearOfEra_eq split centuries cycles years days fun last => (leap last).1
  have fourths : (100 * century + 4 * cycle + year) / 4 = 25 * century + cycle := by omega
  have hundredths : (100 * century + 4 * cycle + year) / 100 = century := by omega
  refine ⟨100 * century + 4 * cycle + year, day, ?_, ?_, ?_, days, ?_⟩
  · rw [counted, yearOfEra]
  · rw [fourths, hundredths, split]
    omega
  -- What is left is about the parts alone.
  · clear counted quotient yearOfEra fourths hundredths split
    omega
  · intro last
    obtain ⟨rfl, endOfCentury⟩ := leap last
    clear counted quotient yearOfEra fourths hundredths split leap
    omega

theorem isLeapYear_iff (year : Int) :
    isLeapYear year = true ↔ year % 4 = 0 ∧ (year % 100 = 0 → year % 400 = 0) := by
  simp only [isLeapYear, Bool.and_eq_true, Bool.or_eq_true, decide_eq_true_eq]
  omega

end Year

section Month

/-- The date of a day of a year that begins in March. -/
def Date.ofMarch (year dayOfYear : Int) : Date :=
  let marchMonth := (5 * dayOfYear + 2) / 153
  let day := dayOfYear - (153 * marchMonth + 2) / 5 + 1
  let month := if marchMonth < 10 then marchMonth + 3 else marchMonth - 9
  ⟨year + (if month ≤ 2 then 1 else 0), month.toNat, day.toNat⟩

/-- The days of a year before a month, both counted from March. -/
def daysBefore (month : Nat) : Nat := (153 * month + 2) / 5

variable {t : Int}

theorem exists_month (low : 0 ≤ t) (high : t ≤ 365) : ∃ month day : Nat,
    month ≤ 11 ∧ 1 ≤ day ∧ daysBefore month + day ≤ daysBefore (month + 1) ∧
      t = daysBefore month + day - 1 := by
  obtain ⟨month, quotient⟩ : ∃ month : Nat, (5 * t + 2) / 153 = month :=
    ⟨((5 * t + 2) / 153).toNat, by omega⟩
  simp only [daysBefore]
  have started : ((153 * month + 2) / 5 : Nat) ≤ t := by omega
  have notOver : t < ((153 * (month + 1) + 2) / 5 : Nat) := by omega
  exact ⟨month, (t - ((153 * month + 2) / 5 : Nat) + 1).toNat, by omega⟩

theorem ofMarch_eq {month day : Nat} (months : month ≤ 11) (first : 1 ≤ day)
    (last : daysBefore month + day ≤ daysBefore (month + 1)) (year : Int) :
    Date.ofMarch year (daysBefore month + day - 1) =
      if month < 10 then ⟨year, month + 3, day⟩ else ⟨year + 1, month - 9, day⟩ := by
  have quotient : (5 * ((daysBefore month : Int) + day - 1) + 2) / 153 = month := by
    simp only [daysBefore] at last ⊢
    omega
  have ofMonth : (daysBefore month : Int) + day - 1 - (153 * month + 2) / 5 + 1 = day := by
    simp only [daysBefore]
    omega
  simp only [Date.ofMarch, quotient, ofMonth]
  by_cases early : month < 10
  · have spring : (month : Int) < 10 ∧ ¬(month : Int) + 3 ≤ 2 := by omega
    have civil : ((month : Int) + 3).toNat = month + 3 := by omega
    simp [early, spring, civil]
  · have winter : ¬(month : Int) < 10 ∧ (month : Int) - 9 ≤ 2 := by omega
    have civil : ((month : Int) - 9).toNat = month - 9 := by omega
    simp [early, winter, civil]

theorem toDays_ofMarch (low : 0 ≤ t) (high : t ≤ 365) (year : Int) :
    (Date.ofMarch year t).toDays = marchFirst year + t := by
  obtain ⟨month, day, months, first, last, rfl⟩ := exists_month low high
  rw [ofMarch_eq months first last]
  split
  · have march : (month + 3 + 9) % 12 = month := by omega
    simp only [Date.toDays, marchFirst, daysBefore, march]
    rw [if_neg (by omega)]
    omega
  · have march : (month - 9 + 9) % 12 = month := by omega
    simp only [Date.toDays, marchFirst, daysBefore, march]
    rw [if_pos (by omega)]
    omega

theorem isValid_ofMarch (low : 0 ≤ t) (high : t ≤ 365) {year : Int}
    (leap : t = 365 → isLeapYear (year + 1) = true) : (Date.ofMarch year t).isValid = true := by
  obtain ⟨month, day, months, first, last, rfl⟩ := exists_month low high
  rw [ofMarch_eq months first last]
  simp only [daysBefore] at *
  by_cases early : month < 10
  · have length : day ≤ daysInMonth year (month + 3) := by
      unfold daysInMonth
      split
      · omega
      · split <;> omega
    simp [early, Date.isValid, first, length]
    omega
  · have february : month = 11 → isLeapYear (year + 1) = false → day ≤ 28 := by
      intro _ common
      have notLast := mt leap (by simp [common])
      omega
    have length : day ≤ daysInMonth (year + 1) (month - 9) := by
      unfold daysInMonth
      split
      · split
        · omega
        · next common => exact february (by omega) (by simpa using common)
      · split <;> omega
    simp [early, Date.isValid, first, length]
    omega

end Month

/-- The date of a day by its year from March and the day of that year. -/
theorem exists_ofMarch (days : Int) : ∃ year t : Int, Date.ofDays days = Date.ofMarch year t ∧
    days = marchFirst year + t ∧ (0 ≤ t ∧ t ≤ 365) ∧ (t = 365 → isLeapYear (year + 1) = true) := by
  obtain ⟨era, d, era_eq, d_eq⟩ : ∃ era d : Int, (days + 719468) / 146097 = era ∧
      (days + 719468) % 146097 = d := ⟨_, _, rfl, rfl⟩
  obtain ⟨year, t, year_eq, t_eq, years, within, leap⟩ :=
    exists_yearOfEra (d := d) (by omega) (by omega)
  refine ⟨year + era * 400, t, ?_, ?_, within, ?_⟩
  · simp only [Date.ofDays, Date.ofMarch, era_eq, d_eq, year_eq, t_eq]
  · have fourths : (year + era * 400) / 4 = year / 4 + 100 * era := by omega
    have hundredths : (year + era * 400) / 100 = year / 100 + 4 * era := by omega
    have eras : (year + era * 400) / 400 = era := by omega
    rw [marchFirst, fourths, hundredths, eras]
    omega
  · intro last
    obtain ⟨fourth, hundredth⟩ := leap last
    rw [isLeapYear_iff]
    omega

theorem Date.toDays_ofDays (days : Int) : (Date.ofDays days).toDays = days := by
  obtain ⟨year, t, date, split, ⟨low, high⟩, -⟩ := exists_ofMarch days
  rw [date, toDays_ofMarch low high, ← split]

theorem Date.isValid_ofDays (days : Int) : (Date.ofDays days).isValid = true := by
  obtain ⟨year, t, date, -, ⟨low, high⟩, leap⟩ := exists_ofMarch days
  rw [date, isValid_ofMarch low high leap]

end InboxAudit.Time
