import ImageBatch.Time.Calendar

/-!
The calendar counts days.

The date of a day is a date of the calendar, and it is that day that it counts back to (`Date.isValid_ofDays`,
`Date.toDays_ofDays`). Years begin with March here: `Date.within_year` places a day of a cycle of 400 years in its year,
and the date of a day of a year goes by months (`Date.marchMonth_cases`).
-/

namespace ImageBatch.Date

variable {day year : Int}

/-- The first day of a year of a cycle. -/
def yearStart (year : Int) : Int := 365 * year + year / 4 - year / 100

/-- The year of a day of a cycle. -/
def yearOfDay (day : Int) : Int := (day - day / 1460 + day / 36524 - day / 146096) / 365

/-- The date of a day of a year. -/
def ofDayOfYear (year day : Int) : Date :=
  let marchMonth := (5 * day + 2) / 153
  let month := if marchMonth < 10 then marchMonth + 3 else marchMonth - 9
  ⟨if month ≤ 2 then year + 1 else year, month.toNat, (day - (153 * marchMonth + 2) / 5 + 1).toNat⟩

theorem ofDays_eq (days : Int) : ofDays days =
    ofDayOfYear (yearOfDay ((days + epochOffset) % 146097) + (days + epochOffset) / 146097 * 400)
      ((days + epochOffset) % 146097 - yearStart (yearOfDay ((days + epochOffset) % 146097))) := rfl

/-! ### Years -/

theorem yearOfDay_bounds (lo : 0 ≤ day) (hi : day < 146097) : 0 ≤ yearOfDay day ∧ yearOfDay day < 400 := by
  unfold yearOfDay
  omega

/-- A day of a cycle is in its year. -/
theorem within_year (lo : 0 ≤ day) (hi : day < 146097) : yearStart (yearOfDay day) ≤ day ∧
    day < yearStart (yearOfDay day + 1) + (yearOfDay day + 1) / 400 := by
  by_cases last : day = 146096
  · subst last
    decide
  -- The division by 1460 is off by one year at most, to the last of the four years before.
  have century : day / 36524 = 0 ∨ day / 36524 = 1 ∨ day / 36524 = 2 ∨ day / 36524 = 3 := by omega
  have whole : day / 146096 = 0 := by omega
  unfold yearOfDay yearStart
  rw [whole]
  generalize same : (day - day / 1460 + day / 36524 - 0) / 365 = year
  have four : year = 4 * (day / 1460) - 1 ∨ year = 4 * (day / 1460) ∨ year = 4 * (day / 1460) + 1 ∨
      year = 4 * (day / 1460) + 2 ∨ year = 4 * (day / 1460) + 3 := by
    rcases century with c | c | c | c <;> omega
  rcases century with c | c | c | c <;> rcases four with f | f | f | f | f <;> omega

/-- A year has 365 days, and one more if the February at its end has. -/
theorem dayOfYear_bounds (lo : 0 ≤ day) (hi : day < 146097) (cycle : Int) : 0 ≤ day - yearStart (yearOfDay day) ∧
    (day - yearStart (yearOfDay day) < 365 ∨
      day - yearStart (yearOfDay day) = 365 ∧ isLeapYear (yearOfDay day + cycle * 400 + 1) = true) := by
  obtain ⟨first, last⟩ := within_year lo hi
  have bounds := yearOfDay_bounds lo hi
  generalize yearOfDay day = year at *
  have four : (year + cycle * 400 + 1) % 4 = (year + 1) % 4 := by omega
  have hundred : (year + cycle * 400 + 1) % 100 = (year + 1) % 100 := by omega
  have fourHundred : (year + cycle * 400 + 1) % 400 = (year + 1) % 400 := by omega
  simp only [isLeapYear, Bool.and_eq_true, Bool.or_eq_true, beq_iff_eq, bne_iff_ne, four, hundred, fourHundred]
  unfold yearStart at first last ⊢
  clear four hundred fourHundred
  by_cases quarter : (year + 1) % 4 = 0
  · by_cases century : (year + 1) % 100 = 0
    · by_cases whole : (year + 1) % 400 = 0 <;> omega
    · omega
  · have century : (year + 1) % 100 ≠ 0 := by omega
    have whole : (year + 1) % 400 ≠ 0 := by omega
    have same : (year + 1) / 4 = year / 4 ∧ (year + 1) / 100 = year / 100 ∧ (year + 1) / 400 = 0 := by omega
    omega

/-! ### Months -/

/-- A day of a year is in one of twelve months. -/
theorem marchMonth_cases (lo : 0 ≤ day) (hi : day ≤ 365) :
    ∃ month : Int, (month = 0 ∨ month = 1 ∨ month = 2 ∨ month = 3 ∨ month = 4 ∨ month = 5 ∨ month = 6 ∨ month = 7 ∨
      month = 8 ∨ month = 9 ∨ month = 10 ∨ month = 11) ∧ (5 * day + 2) / 153 = month ∧
      (153 * month + 2) / 5 ≤ day ∧ day < (153 * month + 155) / 5 :=
  ⟨(5 * day + 2) / 153, by omega, rfl, by omega, by omega⟩

theorem toDays_ofDayOfYear (lo : 0 ≤ day) (hi : day ≤ 365) : (ofDayOfYear year day).toDays =
    year / 400 * 146097 + (yearStart (year % 400) + day) - epochOffset := by
  obtain ⟨month, which, same, first, last⟩ := marchMonth_cases lo hi
  unfold ofDayOfYear toDays yearStart epochOffset
  rw [same]
  rcases which with rfl | rfl | rfl | rfl | rfl | rfl | rfl | rfl | rfl | rfl | rfl | rfl
  all_goals
    simp at *
    omega

theorem isValid_ofDayOfYear (lo : 0 ≤ day) (hi : day < 365 ∨ day = 365 ∧ isLeapYear (year + 1) = true) :
    (ofDayOfYear year day).isValid = true := by
  obtain ⟨month, which, same, first, last⟩ := marchMonth_cases lo (by omega)
  unfold ofDayOfYear isValid daysInMonth
  rw [same]
  rcases which with rfl | rfl | rfl | rfl | rfl | rfl | rfl | rfl | rfl | rfl | rfl | rfl
  case inr.inr.inr.inr.inr.inr.inr.inr.inr.inr.inr =>
    -- The twelfth month is February.
    simp at *
    cases leap : isLeapYear (year + 1) <;> simp [leap] at hi ⊢ <;> omega
  all_goals
    simp at *
    omega

theorem year_ofDayOfYear (lo : 0 ≤ day) (hi : day ≤ 365) :
    (ofDayOfYear year day).year = if day < 306 then year else year + 1 := by
  obtain ⟨month, which, same, first, last⟩ := marchMonth_cases lo hi
  unfold ofDayOfYear
  rw [same]
  rcases which with rfl | rfl | rfl | rfl | rfl | rfl | rfl | rfl | rfl | rfl | rfl | rfl
  all_goals
    simp at *
    omega

/-! ### Days -/

theorem toDays_ofDays (days : Int) : (ofDays days).toDays = days := by
  have range : 0 ≤ (days + epochOffset) % 146097 ∧ (days + epochOffset) % 146097 < 146097 := by omega
  obtain ⟨lo, hi⟩ := dayOfYear_bounds range.1 range.2 ((days + epochOffset) / 146097)
  obtain ⟨early, late⟩ := yearOfDay_bounds range.1 range.2
  rw [ofDays_eq, toDays_ofDayOfYear lo (by omega)]
  have cycle : (yearOfDay ((days + epochOffset) % 146097) + (days + epochOffset) / 146097 * 400) / 400 =
      (days + epochOffset) / 146097 := by omega
  have rest : (yearOfDay ((days + epochOffset) % 146097) + (days + epochOffset) / 146097 * 400) % 400 =
      yearOfDay ((days + epochOffset) % 146097) := by omega
  rw [cycle, rest]
  omega

theorem isValid_ofDays (days : Int) : (ofDays days).isValid = true := by
  have range : 0 ≤ (days + epochOffset) % 146097 ∧ (days + epochOffset) % 146097 < 146097 := by omega
  obtain ⟨lo, hi⟩ := dayOfYear_bounds range.1 range.2 ((days + epochOffset) / 146097)
  rw [ofDays_eq]
  exact isValid_ofDayOfYear lo hi

/-- The days from the first to the last second of the calendar are in its years. -/
theorem year_ofDays_bounds (days : Int) (lo : -96465292 ≤ days) (hi : days ≤ 95026236) :
    -262143 ≤ (ofDays days).year ∧ (ofDays days).year ≤ 262142 := by
  have range : 0 ≤ (days + epochOffset) % 146097 ∧ (days + epochOffset) % 146097 < 146097 := by omega
  obtain ⟨first, short⟩ := dayOfYear_bounds range.1 range.2 0
  obtain ⟨start, finish⟩ := within_year range.1 range.2
  obtain ⟨early, late⟩ := yearOfDay_bounds range.1 range.2
  rw [ofDays_eq, year_ofDayOfYear first (by omega)]
  clear short
  unfold yearStart epochOffset at *
  generalize yearOfDay ((days + 719468) % 146097) = year at *
  -- The first day is in the 257th year of a cycle, the last one in the 143rd.
  have cycle : (days + 719468) / 146097 = -656 ∧ 93808 ≤ (days + 719468) % 146097 ∨
      -656 < (days + 719468) / 146097 ∧ (days + 719468) / 146097 < 655 ∨
      (days + 719468) / 146097 = 655 ∧ (days + 719468) % 146097 ≤ 52169 := by omega
  generalize (days + 719468) / 146097 = cycle at *
  generalize (days + 719468) % 146097 = day at *
  rcases cycle with ⟨rfl, since⟩ | between | ⟨rfl, until_⟩
  · have : 256 ≤ year := by omega
    by_cases same : year = 256
    · subst same
      split <;> omega
    · split <;> omega
  · split <;> omega
  · have : year ≤ 142 := by omega
    by_cases same : year = 142
    · subst same
      split <;> omega
    · split <;> omega

end ImageBatch.Date
