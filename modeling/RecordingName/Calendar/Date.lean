/-!
# Days of the calendar

Days of the proleptic Gregorian calendar, where years run over all integers and a
year 0 exists. A day is counted from 1970-01-01, in both directions.
`dayNumber_ofDayNumber` and `ofDayNumber_valid` say that every number is that of a
real day.
-/

namespace RecordingName

/-- A year, a month from 1 and a day of the month from 1. -/
structure Date where
  year : Int
  month : Nat
  day : Nat
  deriving DecidableEq, Repr

namespace Date

/-- Leap years are the multiples of four but not of a hundred, and the multiples of
four hundred. -/
def isLeap (year : Int) : Bool :=
  year % 4 = 0 && (year % 100 ≠ 0 || year % 400 = 0)

/-- The lengths of the months of a year. -/
def monthLengths (leap : Bool) : List Nat :=
  [31, if leap then 29 else 28, 31, 30, 31, 30, 31, 31, 30, 31, 30, 31]

/-- The length of a month, zero if there is no such month. -/
def daysInMonth (leap : Bool) (month : Nat) : Nat :=
  if month = 0 then 0 else (monthLengths leap).getD (month - 1) 0

/-- The days of consecutive months together. -/
def totalLength : List Nat → Nat
  | [] => 0
  | length :: others => length + totalLength others

/-- The days of a year before a month. -/
def daysBeforeMonth (leap : Bool) (month : Nat) : Nat :=
  totalLength ((monthLengths leap).take (month - 1))

/-- The length of a year. -/
def daysInYear (leap : Bool) : Nat :=
  if leap then 366 else 365

/-- Whether a date names a day that exists. -/
def Valid (date : Date) : Prop :=
  1 ≤ date.month ∧ date.month ≤ 12 ∧ 1 ≤ date.day ∧
    date.day ≤ daysInMonth (isLeap date.year) date.month

instance (date : Date) : Decidable date.Valid :=
  inferInstanceAs (Decidable (_ ∧ _ ∧ _ ∧ _))

/-- The number of a day within its year, from 1. -/
def dayOfYear (date : Date) : Nat :=
  daysBeforeMonth (isLeap date.year) date.month + date.day

/-- The days from the first day of year 1 to the first day of a year. -/
def daysBeforeYear (year : Int) : Int :=
  let past := year - 1
  365 * past + past / 4 - past / 100 + past / 400

/-- The days from the first day of year 1 to 1970-01-01. -/
def epochDays : Int := 719162

/-- The number of a day, where 1970-01-01 has number zero. -/
def dayNumber (date : Date) : Int :=
  daysBeforeYear date.year + date.dayOfYear - 1 - epochDays

/-- The month, counted from `first`, and the day of the month that lie `elapsed`
days behind the start of the first of the given months. -/
def locate (first elapsed : Nat) : List Nat → Nat × Nat
  | [] => (first, elapsed + 1)
  | length :: others =>
      if elapsed < length then (first, elapsed + 1)
      else locate (first + 1) (elapsed - length) others

/-- The date that lies `elapsed` days behind the start of a year. -/
def ofYearDay (year : Int) (elapsed : Nat) : Date :=
  let place := locate 1 elapsed (monthLengths (isLeap year))
  ⟨year, place.1, place.2⟩

/-- The year that holds the day `elapsed` days behind the start of year 1, and the
days that have passed in it. Four hundred years have 146097 days; the last day of
a century, and of four years, belongs to their last year. -/
def yearAndDay (elapsed : Int) : Int × Nat :=
  let cycle := elapsed / 146097
  let inCycle := (elapsed % 146097).toNat
  let century := min 3 (inCycle / 36524)
  let inCentury := inCycle - century * 36524
  let olympiad := inCentury / 1461
  let inOlympiad := inCentury % 1461
  let last := min 3 (inOlympiad / 365)
  (400 * cycle + 100 * century + 4 * olympiad + last + 1, inOlympiad - last * 365)

/-- The date of a day number. -/
def ofDayNumber (number : Int) : Date :=
  let place := yearAndDay (number + epochDays)
  ofYearDay place.1 place.2

/-- The day of the week, from Monday as zero. -/
def weekday (date : Date) : Nat :=
  ((date.dayNumber + 3) % 7).toNat

/-- The years that a timestamp can have. -/
def isSupportedYear (year : Int) : Bool :=
  1 ≤ year && year ≤ 9999

/-- Whether days are cut into parts of `length` days and a rest, where no more than
four parts are made and only the last of them may have one day more. -/
structure CutInFour (length elapsed part rest : Nat) : Prop where
  total : elapsed = length * part + rest
  part_le : part ≤ 3
  rest_le : rest ≤ length
  last_of_rest : rest = length → part = 3

/-- The centuries of four hundred years and the years of an olympiad come out of the
same cut. -/
theorem cutInFour {length elapsed : Nat} (length_pos : 0 < length)
    (elapsed_le : elapsed ≤ 4 * length) :
    CutInFour length elapsed (min 3 (elapsed / length))
      (elapsed - min 3 (elapsed / length) * length) := by
  have total := Nat.div_add_mod elapsed length
  have rest_lt := Nat.mod_lt elapsed length_pos
  rw [Nat.mul_comm _ length]
  by_cases early : elapsed / length ≤ 3
  · rw [Nat.min_eq_right early]
    constructor <;> omega
  · -- From the fourth part on, the days behind the third are a part or one day more.
    have four : length * 4 ≤ length * (elapsed / length) := Nat.mul_le_mul_left _ (by omega)
    rw [Nat.min_eq_left (by omega)]
    constructor <;> omega

/-- The days before a year by its centuries, olympiads and single years. -/
theorem daysBeforeYear_of_parts (cycle : Int) {century olympiad last : Nat}
    (century_le : century ≤ 3) (olympiad_le : olympiad ≤ 24) (last_le : last ≤ 3) :
    daysBeforeYear (400 * cycle + 100 * century + 4 * olympiad + last + 1) =
      146097 * cycle + 36524 * century + 1461 * olympiad + 365 * last := by
  have past : 400 * cycle + 100 * (century : Int) + 4 * (olympiad : Int) + last + 1 - 1 =
      400 * cycle + 100 * century + 4 * olympiad + last := by omega
  have olympiads : (400 * cycle + 100 * (century : Int) + 4 * (olympiad : Int) + last) / 4 =
      100 * cycle + 25 * century + olympiad := by omega
  have centuries : (400 * cycle + 100 * (century : Int) + 4 * (olympiad : Int) + last) / 100 =
      4 * cycle + century := by omega
  have cycles : (400 * cycle + 100 * (century : Int) + 4 * (olympiad : Int) + last) / 400 =
      cycle := by omega
  rw [daysBeforeYear, past, olympiads, centuries, cycles]
  omega

/-- The last year of an olympiad is a leap year, unless the olympiad ends one of the
first three centuries. -/
theorem isLeap_of_parts (cycle : Int) {century olympiad : Nat}
    (olympiad_le : olympiad ≤ 24) (kept : olympiad = 24 → century = 3) :
    isLeap (400 * cycle + 100 * century + 4 * olympiad + (3 : Nat) + 1) = true := by
  simp only [isLeap, Bool.and_eq_true, Bool.or_eq_true, decide_eq_true_eq]
  omega

/-- The year that is found holds the day: the days before it and the days passed in
it are all the days that have passed, and the latter are fewer than the year has. -/
theorem yearAndDay_exact (elapsed : Int) :
    daysBeforeYear (yearAndDay elapsed).1 + (yearAndDay elapsed).2 = elapsed ∧
      (yearAndDay elapsed).2 < daysInYear (isLeap (yearAndDay elapsed).1) := by
  obtain ⟨inCycle, inCycle_eq⟩ :=
    Int.eq_ofNat_of_zero_le (Int.emod_nonneg elapsed (by decide : (146097 : Int) ≠ 0))
  simp only [yearAndDay, inCycle_eq, Int.toNat_natCast]
  have centuries := @cutInFour 36524 inCycle (by decide) (by omega)
  generalize min 3 (inCycle / 36524) = century at *
  generalize inCycle - century * 36524 = inCentury at *
  have century_rest := centuries.rest_le
  have olympiad_le : inCentury / 1461 ≤ 24 := by omega
  have years := @cutInFour 365 (inCentury % 1461) (by decide) (by omega)
  have total : inCentury = 1461 * (inCentury / 1461) + inCentury % 1461 := by omega
  generalize inCentury / 1461 = olympiad at *
  generalize inCentury % 1461 = inOlympiad at *
  generalize min 3 (inOlympiad / 365) = last at *
  generalize inOlympiad - last * 365 = day at *
  have century_total := centuries.total
  have year_total := years.total
  rw [daysBeforeYear_of_parts _ centuries.part_le olympiad_le years.part_le]
  refine ⟨by omega, ?_⟩
  by_cases leap_day : day = 365
  · -- Day 366 of the last year of a century would be a day more than the century has.
    have last_three := years.last_of_rest leap_day
    have kept : olympiad = 24 → century = 3 := fun ends => centuries.last_of_rest (by omega)
    rw [last_three, isLeap_of_parts _ olympiad_le kept, leap_day]
    decide
  · have day_le := years.rest_le
    simp only [daysInYear]
    split <;> omega

/-- The place that is found is a month of the list and a day inside it, and the days
up to that day are one more than have passed. -/
theorem locate_exact (first elapsed : Nat) (lengths : List Nat)
    (short : elapsed < totalLength lengths) :
    ∃ index < lengths.length,
      (locate first elapsed lengths).1 = first + index ∧
      1 ≤ (locate first elapsed lengths).2 ∧
      (locate first elapsed lengths).2 ≤ lengths.getD index 0 ∧
      totalLength (lengths.take index) + (locate first elapsed lengths).2 = elapsed + 1 := by
  induction lengths generalizing first elapsed with
  | nil => simp [totalLength] at short
  | cons length others ih =>
      by_cases here : elapsed < length
      · exact ⟨0, by simp, by simp [locate, here], by simp [locate, here],
          by rw [locate, if_pos here]; exact Nat.succ_le_of_lt here,
          by simp [locate, here, totalLength]⟩
      · have rest_short : elapsed - length < totalLength others := by
          rw [totalLength] at short
          omega
        obtain ⟨index, index_lt, month_eq, day_pos, day_le, total⟩ :=
          ih (first + 1) (elapsed - length) rest_short
        refine ⟨index + 1, by simpa using index_lt, ?_, ?_, ?_, ?_⟩
        · simp only [locate, if_neg here, month_eq]
          omega
        · simpa only [locate, if_neg here] using day_pos
        · simpa [locate, if_neg here] using day_le
        · simp only [locate, if_neg here, List.take_succ_cons, totalLength]
          omega

/-- A day of a month is found behind the months before it. -/
theorem locate_totalLength (first : Nat) {index day : Nat} {lengths : List Nat}
    (inside : day < lengths.getD index 0) :
    locate first (totalLength (lengths.take index) + day) lengths = (first + index, day + 1) := by
  induction lengths generalizing first index with
  | nil => simp at inside
  | cons length others ih =>
      cases index with
      | zero =>
          have here : 0 + day < length := by simpa using inside
          rw [List.take_zero, totalLength, locate, if_pos here, Nat.zero_add]
          rfl
      | succ index =>
          rw [List.take_succ_cons, totalLength, locate, if_neg (by omega),
            Nat.add_assoc, Nat.add_sub_cancel_left, ih (first + 1) (by simpa using inside),
            Nat.add_right_comm, Nat.add_assoc]

/-- The months of a year are the year. -/
theorem totalLength_monthLengths (leap : Bool) :
    totalLength (monthLengths leap) = daysInYear leap := by
  cases leap <;> rfl

/-- Within a year, the date behind `elapsed` days exists and is the day with number
`elapsed + 1` of the year. -/
theorem ofYearDay_exact {year : Int} {elapsed : Nat} (short : elapsed < daysInYear (isLeap year)) :
    (ofYearDay year elapsed).Valid ∧ (ofYearDay year elapsed).dayOfYear = elapsed + 1 := by
  obtain ⟨index, index_lt, month_eq, day_pos, day_le, total⟩ :=
    locate_exact 1 elapsed (monthLengths (isLeap year)) (by rwa [totalLength_monthLengths])
  have index_le : index < 12 := by simpa [monthLengths] using index_lt
  rw [Nat.add_comm] at month_eq
  refine ⟨⟨?_, ?_, day_pos, ?_⟩, ?_⟩
  · simp only [ofYearDay, month_eq]
    omega
  · simp only [ofYearDay, month_eq]
    omega
  · simpa [daysInMonth, ofYearDay, month_eq] using day_le
  · simpa [dayOfYear, daysBeforeMonth, ofYearDay, month_eq] using total

/-- A day that exists is the day with its number in its year. -/
theorem ofYearDay_dayOfYear {date : Date} (valid : date.Valid) :
    ofYearDay date.year (date.dayOfYear - 1) = date := by
  obtain ⟨year, month, day⟩ := date
  obtain ⟨month_pos, _, day_pos, day_le⟩ := valid
  simp only at month_pos day_pos day_le
  rw [daysInMonth, if_neg (by omega)] at day_le
  have elapsed : dayOfYear ⟨year, month, day⟩ - 1 =
      totalLength ((monthLengths (isLeap year)).take (month - 1)) + (day - 1) := by
    simp only [dayOfYear, daysBeforeMonth]
    omega
  rw [ofYearDay, elapsed, locate_totalLength 1 (by omega)]
  simp only [Date.mk.injEq, true_and]
  omega

/-- The number of a day in its year is not greater than the length of the year. -/
theorem dayOfYear_le {date : Date} (valid : date.Valid) :
    1 ≤ date.dayOfYear ∧ date.dayOfYear ≤ daysInYear (isLeap date.year) := by
  obtain ⟨_, month_le, day_pos, day_le⟩ := valid
  have most (leap : Bool) : ∀ month ≤ 12,
      daysBeforeMonth leap month + daysInMonth leap month ≤ daysInYear leap := by
    cases leap <;> decide
  have whole := most (isLeap date.year) date.month month_le
  rw [dayOfYear]
  omega

/-- Every number is that of a day that exists. -/
theorem ofDayNumber_valid (number : Int) : (ofDayNumber number).Valid :=
  (ofYearDay_exact (yearAndDay_exact _).2).1

/-- The date of a number has that number. -/
theorem dayNumber_ofDayNumber (number : Int) : (ofDayNumber number).dayNumber = number := by
  have place := yearAndDay_exact (number + epochDays)
  have inside := (ofYearDay_exact place.2).2
  simp only [dayNumber, ofDayNumber, inside]
  have : (ofYearDay (yearAndDay (number + epochDays)).1 (yearAndDay (number + epochDays)).2).year =
      (yearAndDay (number + epochDays)).1 := rfl
  rw [this]
  have := place.1
  omega

end Date
end RecordingName
