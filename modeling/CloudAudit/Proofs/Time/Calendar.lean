import CloudAudit.Time.Calendar
/-!
# Days and dates

The date of every number of days is a date of the calendar, and its number of days is that number
again. Days are counted in spans of four hundred years, each cut into centuries, spans of four years
and years from March, of which the last of each kind is the one whose length differs.
-/
set_option autoImplicit false

namespace CloudAudit

namespace Date

/-- A day of four hundred years in its century, span of four years and year from March. -/
structure Cut (days century span year day : Int) : Prop where
  sum : days = 36524 * century + 1461 * span + 365 * year + day
  century_mem : 0 ≤ century ∧ century ≤ 3
  span_mem : 0 ≤ span ∧ span ≤ 24
  year_mem : 0 ≤ year ∧ year ≤ 3
  day_mem : 0 ≤ day ∧ day ≤ 365
  leapDay : day = 365 → year = 3 ∧ (span = 24 → century = 3)

theorem exists_cut {days : Int} (notBefore : 0 ≤ days) (below : days < 146097) :
    ∃ century span year day, Cut days century span year day := by
  -- the last day of four hundred years and that of four years have no quotient of their own
  by_cases last : days = 146096
  · exact ⟨3, 24, 3, 365, by omega, by omega, by omega, by omega, by omega, by omega⟩
  · by_cases leapDay : days % 36524 % 1461 = 1460
    · exact ⟨days / 36524, days % 36524 / 1461, 3, 365, by omega, by omega, by omega, by omega,
        by omega, by omega⟩
    · exact ⟨days / 36524, days % 36524 / 1461, days % 36524 % 1461 / 365,
        days % 36524 % 1461 % 365, by omega, by omega, by omega, by omega, by omega, by omega⟩

namespace Cut

variable {days century span year day : Int}

theorem below_century (cut : Cut days century span year day) :
    1461 * span + 365 * year + day < 36524 ∨
      century = 3 ∧ 1461 * span + 365 * year + day = 36524 := by
  obtain ⟨-, -, spanMem, yearMem, dayMem, leapDay⟩ := cut
  by_cases isLeapDay : day = 365
  · obtain ⟨last, ofCentury⟩ := leapDay isLeapDay
    by_cases lastSpan : span = 24
    · exact .inr ⟨ofCentury lastSpan, by omega⟩
    · exact .inl (by omega)
  · exact .inl (by omega)

/-- The year that the days less the leap days so far come to. -/
theorem yearOfEra (cut : Cut days century span year day) :
    (days - days / 1460 + days / 36524 - days / 146096) / 365 =
      100 * century + 4 * span + year := by
  have below := cut.below_century
  obtain ⟨sum, centuryMem, spanMem, yearMem, dayMem, leapDay⟩ := cut
  have centuries : days / 36524 - days / 146096 = century := by
    rcases below with inside | ⟨rfl, last⟩
    · have whole : days / 36524 = century := by omega
      have zero : days / 146096 = 0 := by omega
      omega
    · omega
  have leapDays : days / 1460 ≤ 25 * century + span + day ∧
      25 * century + span + day - 365 < days / 1460 := by omega
  omega

theorem dayOfYear (cut : Cut days century span year day) :
    days - (365 * (100 * century + 4 * span + year) + (100 * century + 4 * span + year) / 4 -
      (100 * century + 4 * span + year) / 100) = day := by
  obtain ⟨sum, centuryMem, spanMem, yearMem, dayMem, leapDay⟩ := cut
  have fours : (100 * century + 4 * span + year) / 4 = 25 * century + span := by omega
  have hundreds : (100 * century + 4 * span + year) / 100 = century := by omega
  omega

end Cut

/-- The date of a day of a year from March. -/
def fromMarch (year day : Int) : Date :=
  let month := (5 * day + 2) / 153
  let dayOfMonth := day - (153 * month + 2) / 5 + 1
  let month := if month < 10 then month + 3 else month - 9
  ⟨year + (if month ≤ 2 then 1 else 0), month.toNat, dayOfMonth.toNat⟩

theorem exists_ofDays (days : Int) :
    ∃ era century span year day, Cut (days + 719468 - era * 146097) century span year day ∧
      ofDays days = fromMarch (100 * century + 4 * span + year + era * 400) day := by
  obtain ⟨century, span, year, day, cut⟩ :=
    @exists_cut (days + 719468 - (days + 719468) / 146097 * 146097) (by omega) (by omega)
  refine ⟨(days + 719468) / 146097, century, span, year, day, cut, ?_⟩
  simp only [ofDays, cut.yearOfEra, cut.dayOfYear]
  rfl

/-- Where a day of a year from March lies: March to December, or January and February of the year
after. -/
inductive Placed (year day : Int) : Date → Prop where
  | sameYear {month dayOfMonth : Nat} (months : 3 ≤ month ∧ month ≤ 12) (first : 1 ≤ dayOfMonth)
    (index : (5 * day + 2) / 153 = month - 3)
    (within : day + 1 = (153 * (month - 3 : Int) + 2) / 5 + dayOfMonth) :
    Placed year day ⟨year, month, dayOfMonth⟩
  | nextYear {month dayOfMonth : Nat} (months : 1 ≤ month ∧ month ≤ 2) (first : 1 ≤ dayOfMonth)
    (index : (5 * day + 2) / 153 = month + 9)
    (within : day + 1 = (153 * (month + 9 : Int) + 2) / 5 + dayOfMonth) :
    Placed year day ⟨year + 1, month, dayOfMonth⟩

section

variable {year day : Int}

theorem placed_fromMarch (year : Int) (inYear : 0 ≤ day ∧ day ≤ 365) :
    Placed year day (fromMarch year day) := by
  rw [fromMarch]
  by_cases early : (5 * day + 2) / 153 < 10
  · have later : ¬ (5 * day + 2) / 153 + 3 ≤ 2 := by omega
    simp only [if_pos early, if_neg later, Int.add_zero]
    exact .sameYear (by omega) (by omega) (by omega) (by omega)
  · have sooner : (5 * day + 2) / 153 - 9 ≤ 2 := by omega
    simp only [if_neg early, if_pos sooner]
    exact .nextYear (by omega) (by omega) (by omega) (by omega)

theorem Placed.toDays {era : Int} {date : Date} (placed : Placed (year + era * 400) day date)
    (years : 0 ≤ year ∧ year < 400) :
    date.toDays = era * 146097 + (year * 365 + year / 4 - year / 100 + day) - 719468 := by
  have eras : (year + era * 400) / 400 = era := by omega
  cases placed with
  | sameYear months first index within =>
    have later : ¬ _ ≤ 2 := Nat.not_le.2 months.1
    simp only [Date.toDays, if_neg later, eras]
    omega
  | nextYear months first index within =>
    simp only [Date.toDays, if_pos months.2, Int.add_sub_cancel, eras]
    omega

theorem Placed.isValid {date : Date} (placed : Placed year day date)
    (inYear : 0 ≤ day ∧ day ≤ 365) (leapDay : day = 365 → isLeap (year + 1) = true) :
    date.isValid = true := by
  rw [Date.isValid, monthLength]
  cases placed with
  | sameYear months first index within =>
    simp only [Bool.and_eq_true, Bool.or_eq_true, decide_eq_true_eq, beq_iff_eq]
    refine ⟨⟨⟨by omega, months.2⟩, first⟩, ?_⟩
    rw [if_neg (by omega)]
    split <;> omega
  | @nextYear month _ months first index within =>
    simp only [Bool.and_eq_true, Bool.or_eq_true, decide_eq_true_eq, beq_iff_eq]
    refine ⟨⟨⟨months.1, by omega⟩, first⟩, ?_⟩
    by_cases february : month = 2
    · rw [if_pos february]
      by_cases isLast : day = 365
      · rw [if_pos (leapDay isLast)]
        omega
      · split <;> omega
    · rw [if_neg february, if_neg (by omega)]
      omega

end

theorem toDays_ofDays (days : Int) : (ofDays days).toDays = days := by
  obtain ⟨era, century, span, year, day, cut, date⟩ := exists_ofDays days
  have sameDay := cut.dayOfYear
  rw [date, (placed_fromMarch _ cut.day_mem).toDays]
  · omega
  · obtain ⟨-, centuryMem, spanMem, yearMem, -, -⟩ := cut
    omega

theorem isValid_ofDays (days : Int) : (ofDays days).isValid = true := by
  obtain ⟨era, century, span, year, day, cut, date⟩ := exists_ofDays days
  rw [date]
  refine (placed_fromMarch _ cut.day_mem).isValid cut.day_mem fun isLeapDay => ?_
  obtain ⟨-, centuryMem, spanMem, yearMem, -, leapDay⟩ := cut
  obtain ⟨rfl, ofCentury⟩ := leapDay isLeapDay
  simp only [isLeap, Bool.and_eq_true, Bool.or_eq_true, bne_iff_ne, beq_iff_eq]
  omega

theorem monthLength_le (year : Int) (month : Nat) : monthLength year month ≤ 31 := by
  rw [monthLength]
  repeat' split
  all_goals decide

theorem pairs_ofDays (days : Int) : (ofDays days).month < 100 ∧ (ofDays days).day < 100 := by
  have valid := isValid_ofDays days
  have length := monthLength_le (ofDays days).year (ofDays days).month
  simp only [isValid, Bool.and_eq_true, decide_eq_true_eq] at valid
  omega

end Date

end CloudAudit
