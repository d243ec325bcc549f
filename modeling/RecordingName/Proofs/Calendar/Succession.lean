import Mathlib.Logic.Function.Iterate
import RecordingName.Calendar.Date

/-!
# Days one after the other

The calendar as it is counted: each date has a `tomorrow`, and the number of a day is the number of
times that one has to wait for tomorrow from 1970-01-01 on, or else until then, by
`isCounted_iff_dayNumber`. So dates and numbers determine each other: `ofDayNumber_dayNumber`.
-/

namespace RecordingName.Date

variable {date first second : Date}

/-- The first day of 1970. -/
def epoch : Date := ⟨1970, 1, 1⟩

/-- The day after a date. -/
def tomorrow (date : Date) : Date :=
  if date.day < daysInMonth (isLeap date.year) date.month then { date with day := date.day + 1 }
  else if date.month < 12 then ⟨date.year, date.month + 1, 1⟩
  else ⟨date.year + 1, 1, 1⟩

/-- Whether a date is reached by waiting for so many days from 1970-01-01 on, or, for a negative
number, 1970-01-01 by waiting from the date on. -/
def IsCounted (date : Date) : Int → Prop
  | .ofNat count => tomorrow^[count] epoch = date
  | .negSucc count => tomorrow^[count + 1] date = epoch

/-- A month starts when the month before it is over. -/
theorem daysBeforeMonth_succ (leap : Bool) {month : Nat} (positive : 1 ≤ month)
    (inside : month ≤ 12) :
    daysBeforeMonth leap (month + 1) = daysBeforeMonth leap month + daysInMonth leap month := by
  have known : ∀ leap, ∀ month ≤ 12, 1 ≤ month →
      daysBeforeMonth leap (month + 1) = daysBeforeMonth leap month + daysInMonth leap month := by
    decide
  exact known leap month inside positive

/-- A year starts when the year before it is over. -/
theorem daysBeforeYear_succ (year : Int) :
    daysBeforeYear (year + 1) = daysBeforeYear year + daysInYear (isLeap year) := by
  simp only [daysBeforeYear, daysInYear, isLeap, Bool.and_eq_true, Bool.or_eq_true,
    decide_eq_true_eq]
  split <;> omega

/-- A month has at least one day. -/
theorem daysInMonth_pos (leap : Bool) {month : Nat} (positive : 1 ≤ month) (inside : month ≤ 12) :
    1 ≤ daysInMonth leap month := by
  have known : ∀ leap, ∀ month ≤ 12, 1 ≤ month → 1 ≤ daysInMonth leap month := by decide
  exact known leap month inside positive

/-- The day after a day exists. -/
theorem tomorrow_valid (valid : date.Valid) : date.tomorrow.Valid := by
  obtain ⟨month_pos, month_le, day_pos, day_le⟩ := valid
  unfold tomorrow
  split
  next in_month => exact ⟨month_pos, month_le, Nat.le_succ_of_le day_pos, in_month⟩
  · split
    next in_year =>
      exact ⟨Nat.le_succ_of_le month_pos, in_year, Nat.le_refl 1,
        daysInMonth_pos _ (Nat.le_succ_of_le month_pos) in_year⟩
    · have january : 1 ≤ 12 := by decide
      exact ⟨Nat.le_refl 1, january, Nat.le_refl 1, daysInMonth_pos _ (Nat.le_refl 1) january⟩

/-- The day after a day has the next number. -/
theorem dayNumber_tomorrow (valid : date.Valid) : date.tomorrow.dayNumber = date.dayNumber + 1 := by
  obtain ⟨month_pos, month_le, day_pos, day_le⟩ := valid
  unfold tomorrow
  split
  · simp only [dayNumber, dayOfYear]
    omega
  next month_ends =>
    have last_day : date.day = daysInMonth (isLeap date.year) date.month := by omega
    have next_month := daysBeforeMonth_succ (isLeap date.year) month_pos month_le
    split
    · simp only [dayNumber, dayOfYear]
      omega
    next year_ends =>
      have december : date.month = 12 := by omega
      have whole : daysBeforeMonth (isLeap date.year) (12 + 1) = daysInYear (isLeap date.year) :=
        totalLength_monthLengths _
      have next_year := daysBeforeYear_succ date.year
      have january (leap : Bool) : daysBeforeMonth leap 1 = 0 := rfl
      rw [december] at next_month last_day
      simp only [dayNumber, dayOfYear, january, december]
      omega

/-- A later year has greater numbers. -/
theorem dayNumber_lt_of_year_lt (first_valid : first.Valid) (second_valid : second.Valid)
    (earlier : first.year < second.year) : first.dayNumber < second.dayNumber := by
  have first_short := (dayOfYear_le first_valid).2
  have second_begun := (dayOfYear_le second_valid).1
  have year_ends := daysBeforeYear_succ first.year
  have years_pass : daysBeforeYear (first.year + 1) ≤ daysBeforeYear second.year := by
    simp only [daysBeforeYear]
    omega
  simp only [dayNumber]
  omega

/-- Days that exist are told apart by their numbers. -/
theorem eq_of_dayNumber_eq (first_valid : first.Valid) (second_valid : second.Valid)
    (same : first.dayNumber = second.dayNumber) : first = second := by
  have same_year : first.year = second.year := by
    rcases Int.lt_trichotomy first.year second.year with earlier | equal | later
    · exact absurd same (Int.ne_of_lt (dayNumber_lt_of_year_lt first_valid second_valid earlier))
    · exact equal
    · exact absurd same.symm
        (Int.ne_of_lt (dayNumber_lt_of_year_lt second_valid first_valid later))
  have same_day : first.dayOfYear = second.dayOfYear := by
    simp only [dayNumber, same_year] at same
    omega
  rw [← ofYearDay_dayOfYear first_valid, ← ofYearDay_dayOfYear second_valid, same_year, same_day]

/-- A day that exists is the day of its number. -/
theorem ofDayNumber_dayNumber (valid : date.Valid) : ofDayNumber date.dayNumber = date := by
  apply eq_of_dayNumber_eq (ofDayNumber_valid _) valid
  exact dayNumber_ofDayNumber _

/-- Waiting for some days leads to a day that exists, with a number greater by as many. -/
theorem dayNumber_iterate_tomorrow (valid : date.Valid) (count : Nat) :
    (tomorrow^[count] date).Valid ∧ (tomorrow^[count] date).dayNumber = date.dayNumber + count := by
  induction count with
  | zero => exact ⟨valid, (Int.add_zero _).symm⟩
  | succ count ih =>
      obtain ⟨before_valid, before⟩ := ih
      rw [Function.iterate_succ_apply']
      refine ⟨tomorrow_valid before_valid, ?_⟩
      rw [dayNumber_tomorrow before_valid, before, Int.natCast_succ, Int.add_assoc]

theorem epoch_valid : epoch.Valid := by decide

theorem dayNumber_epoch : epoch.dayNumber = 0 := by decide

/-- The number of a day that exists is the number of days that are counted to it. -/
theorem isCounted_iff_dayNumber (valid : date.Valid) (number : Int) :
    date.IsCounted number ↔ date.dayNumber = number := by
  cases number with
  | ofNat count =>
      obtain ⟨reached_valid, reached⟩ := dayNumber_iterate_tomorrow epoch_valid count
      rw [dayNumber_epoch, Int.zero_add] at reached
      constructor
      · rintro rfl
        exact reached
      · intro same
        exact eq_of_dayNumber_eq reached_valid valid (reached.trans same.symm)
  | negSucc count =>
      obtain ⟨reached_valid, reached⟩ := dayNumber_iterate_tomorrow valid (count + 1)
      constructor
      · intro counted
        rw [IsCounted.eq_2] at counted
        rw [counted, dayNumber_epoch] at reached
        omega
      · intro same
        apply eq_of_dayNumber_eq reached_valid epoch_valid
        rw [reached, same, dayNumber_epoch]
        omega

end RecordingName.Date
