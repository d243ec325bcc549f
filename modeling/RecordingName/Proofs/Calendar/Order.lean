import RecordingName.Calendar.Timestamp
import RecordingName.Proofs.Calendar.Succession

/-!
# The order of days and times

Days that exist are numbered in the order of their years, months and days, by
`Date.dayNumber_lt_iff`, and the seconds of a day are counted in the order of hours, minutes and
seconds, by `TimeOfDay.seconds_lt_iff`.
-/

namespace RecordingName

namespace Date

variable {first second : Date}

/-- A month ends before each later month of the year starts. -/
theorem daysBeforeMonth_add_le (leap : Bool) {month later : Nat} (positive : 1 ≤ month)
    (earlier : month < later) (inside : later ≤ 12) :
    daysBeforeMonth leap month + daysInMonth leap month ≤ daysBeforeMonth leap later := by
  have known : ∀ leap, ∀ later ≤ 12, ∀ month < later, 1 ≤ month →
      daysBeforeMonth leap month + daysInMonth leap month ≤ daysBeforeMonth leap later := by
    decide
  exact known leap later inside month earlier positive

/-- A later month of the same year has greater numbers. -/
theorem dayNumber_lt_of_month_lt (first_valid : first.Valid) (second_valid : second.Valid)
    (same : first.year = second.year) (earlier : first.month < second.month) :
    first.dayNumber < second.dayNumber := by
  obtain ⟨month_pos, _, _, day_le⟩ := first_valid
  obtain ⟨_, month_le, day_pos, _⟩ := second_valid
  have months_pass := daysBeforeMonth_add_le (isLeap first.year) month_pos earlier month_le
  simp only [dayNumber, dayOfYear, ← same]
  omega

/-- Days that exist are numbered in the order of their years, months and days. -/
theorem dayNumber_lt_iff (first_valid : first.Valid) (second_valid : second.Valid) :
    first.dayNumber < second.dayNumber ↔
      first.year < second.year ∨ first.year = second.year ∧
        (first.month < second.month ∨ first.month = second.month ∧ first.day < second.day) := by
  rcases Int.lt_trichotomy first.year second.year with earlier | same_year | later
  · have less := dayNumber_lt_of_year_lt first_valid second_valid earlier
    exact iff_of_true less (.inl earlier)
  · rcases Nat.lt_trichotomy first.month second.month with earlier | same_month | later
    · have less := dayNumber_lt_of_month_lt first_valid second_valid same_year earlier
      exact iff_of_true less (.inr ⟨same_year, .inl earlier⟩)
    · have apart : first.dayNumber - second.dayNumber = (first.day : Int) - second.day := by
        simp only [dayNumber, dayOfYear, same_year, same_month]
        omega
      omega
    · have greater := dayNumber_lt_of_month_lt second_valid first_valid same_year.symm later
      omega
  · have greater := dayNumber_lt_of_year_lt second_valid first_valid later
    omega

end Date

/-- The seconds of a day are counted in the order of hours, minutes and seconds. -/
theorem TimeOfDay.seconds_lt_iff {first second : TimeOfDay} (first_valid : first.Valid)
    (second_valid : second.Valid) :
    first.seconds < second.seconds ↔
      first.hour < second.hour ∨ first.hour = second.hour ∧
        (first.minute < second.minute ∨ first.minute = second.minute ∧
          first.second < second.second) := by
  obtain ⟨_, first_minute, first_second, _⟩ := first_valid
  obtain ⟨_, second_minute, second_second, _⟩ := second_valid
  simp only [TimeOfDay.seconds]
  omega

end RecordingName
