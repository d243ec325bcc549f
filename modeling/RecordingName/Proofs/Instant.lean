import Mathlib.Algebra.Group.Int.Defs
import RecordingName.Zone.Tables
import RecordingName.Proofs.Calendar.Succession
import RecordingName.Proofs.DateFormat.Standard

/-!
# Instants and what they show

Every instant either has a timestamp, which shows its seconds, milliseconds and offset, or exactly
one reason to have none. `ZonedTimestamp.Shows` and `InstantError.Applies` say what that means, with
days that are counted one by one, and `ofMillis_exact` that it is so for all instants and zones.
-/

namespace RecordingName

variable {zone : Zone} {millis seconds : Int} {date : Date} {time : TimeOfDay}
  {stamp : ZonedTimestamp} {error : InstantError}

/-- The day of a clock that shows the given seconds since the start of 1970. -/
structure Date.IsDayOf (seconds : Int) (date : Date) : Prop where
  valid : date.Valid
  counted : date.IsCounted (seconds / 86400)

/-- Whether a clock that shows the given seconds since the start of 1970 is in the years 1 to
9999. -/
def InSupportedYears (seconds : Int) : Prop :=
  ∃ date : Date, date.IsDayOf seconds ∧ 1 ≤ date.year ∧ date.year ≤ 9999

/-- What a timestamp says of an instant in a zone: a date and a time that exist, so many seconds
from the start of 1970 on as the instant and the offset of the zone make together. -/
structure ZonedTimestamp.Shows (zone : Zone) (millis : Int) (stamp : ZonedTimestamp) : Prop where
  universal : InSupportedYears (millis / 1000)
  valid : stamp.Valid
  seconds : ∃ days : Int, stamp.date.IsCounted days ∧
    86400 * days + stamp.time.seconds - stamp.offset.seconds = millis / 1000
  microsecond : (stamp.time.microsecond : Int) = 1000 * (millis % 1000)
  offset : stamp.offset = zone.offsetAt (millis / 1000)

/-- The reasons for which an instant has no timestamp in a zone. -/
inductive InstantError.Applies (zone : Zone) (millis : Int) : InstantError → Prop where
  | secondsTooLarge (beyond : millis / 1000 < -2 ^ 63 ∨ 2 ^ 63 ≤ millis / 1000) :
      Applies zone millis .secondsTooLarge
  | yearTooLarge {date : Date} (within : -2 ^ 63 ≤ millis / 1000 ∧ millis / 1000 < 2 ^ 63)
      (day : date.IsDayOf (millis / 1000))
      (beyond : date.year - 1900 < -2 ^ 31 ∨ 2 ^ 31 ≤ date.year - 1900) :
      Applies zone millis .yearTooLarge
  | yearOutOfRange {date : Date} (day : date.IsDayOf (millis / 1000))
      (within : -2 ^ 31 ≤ date.year - 1900 ∧ date.year - 1900 < 2 ^ 31)
      (beyond : date.year < 1 ∨ 9999 < date.year) :
      Applies zone millis (.yearOutOfRange (Word.wrap32 date.year))
  | localOutOfRange (universal : InSupportedYears (millis / 1000))
      (beyond : ¬ InSupportedYears (millis / 1000 + (zone.offsetAt (millis / 1000)).seconds)) :
      Applies zone millis .localOutOfRange

/-- There is one day of a clock. -/
theorem Date.isDayOf_iff : date.IsDayOf seconds ↔ date = ofDayNumber (seconds / 86400) := by
  constructor
  · rintro ⟨valid, counted⟩
    rw [← (isCounted_iff_dayNumber valid _).1 counted, ofDayNumber_dayNumber valid]
  · rintro rfl
    have valid := ofDayNumber_valid (seconds / 86400)
    exact ⟨valid, (isCounted_iff_dayNumber valid _).2 (dayNumber_ofDayNumber _)⟩

/-- The date of the number of whole days is the day of that second. -/
theorem Date.isDayOf_ofDayNumber (seconds : Int) :
    (ofDayNumber (seconds / 86400)).IsDayOf seconds :=
  isDayOf_iff.2 rfl

/-- Seconds lie in the supported years when the year of their day is one. -/
theorem inSupportedYears_iff :
    InSupportedYears seconds ↔ Date.isSupportedYear (Date.ofDayNumber (seconds / 86400)).year := by
  simp only [InSupportedYears, Date.isDayOf_iff, exists_eq_left, Date.isSupportedYear,
    Bool.and_eq_true, decide_eq_true_eq]

/-- Seconds fit 64 bits if their year fits 32. -/
theorem Date.IsDayOf.seconds_fit (day : date.IsDayOf seconds)
    (within : -2 ^ 31 ≤ date.year - 1900 ∧ date.year - 1900 < 2 ^ 31) :
    -2 ^ 63 ≤ seconds ∧ seconds < 2 ^ 63 := by
  have number := (isCounted_iff_dayNumber day.valid _).1 day.counted
  have in_year := dayOfYear_le day.valid
  have longest : daysInYear (isLeap date.year) ≤ 366 := by
    rw [daysInYear]
    split <;> decide
  simp only [dayNumber, daysBeforeYear, epochDays] at number
  omega

/-- A time of day that exists is the time of its seconds. -/
theorem TimeOfDay.ofSeconds_seconds (valid : time.Valid) :
    ofSeconds time.seconds time.microsecond = time := by
  obtain ⟨hour, minute, second, microsecond⟩ := time
  obtain ⟨_, minute_lt, second_lt, _⟩ := valid
  dsimp only at minute_lt second_lt
  simp only [ofSeconds, TimeOfDay.seconds, TimeOfDay.mk.injEq, and_true]
  omega

/-- The seconds of a time of day that exists are fewer than a day has. -/
theorem TimeOfDay.seconds_lt (valid : time.Valid) : time.seconds < 86400 := by
  obtain ⟨hour_lt, minute_lt, second_lt, _⟩ := valid
  simp only [TimeOfDay.seconds]
  omega

/-- A signed word of 64 bits has its usual bounds. -/
theorem Word.fits64_iff {number : Int} :
    fits64 number ↔ -2 ^ 63 ≤ number ∧ number < 2 ^ 63 := by
  simp only [fits64, Bool.and_eq_true, decide_eq_true_eq]
  omega

/-- A signed word of 32 bits has its usual bounds. -/
theorem Word.fits32_iff {number : Int} :
    fits32 number ↔ -2 ^ 31 ≤ number ∧ number < 2 ^ 31 := by
  simp only [fits32, Bool.and_eq_true, decide_eq_true_eq]
  omega

/-- The years of timestamps run from 1 to 9999. -/
theorem Date.isSupportedYear_iff {year : Int} :
    isSupportedYear year ↔ 1 ≤ year ∧ year ≤ 9999 := by
  simp only [isSupportedYear, Bool.and_eq_true, decide_eq_true_eq]

namespace ZonedTimestamp

/-- An instant whose universal year is supported has the timestamp of its local seconds if their
year is supported, too. -/
theorem ofMillis_of_universal (universal : InSupportedYears (millis / 1000)) :
    ofMillis zone millis =
      if Date.isSupportedYear (Date.ofDayNumber
          ((millis / 1000 + (zone.offsetAt (millis / 1000)).seconds) / 86400)).year then
        .ok (ofLocalSeconds (millis / 1000 + (zone.offsetAt (millis / 1000)).seconds)
          (1000 * (millis % 1000).toNat) (zone.offsetAt (millis / 1000)))
      else .error .localOutOfRange := by
  obtain ⟨date, day, supported⟩ := universal
  have within : -2 ^ 31 ≤ date.year - 1900 ∧ date.year - 1900 < 2 ^ 31 := by omega
  have fit : Word.fits64 (millis / 1000) := Word.fits64_iff.2 (day.seconds_fit within)
  have year_fit : Word.fits32 (date.year - 1900) := Word.fits32_iff.2 within
  have year_supported := Date.isSupportedYear_iff.2 supported
  rw [Date.isDayOf_iff.1 day] at year_fit year_supported
  simp only [ofMillis, fit, year_fit, year_supported, Bool.not_true, Bool.false_eq_true, if_false,
    ofLocalSeconds]
  rfl

/-- An instant has no timestamp for the reason that applies to it. -/
theorem ofMillis_of_applies (applies : error.Applies zone millis) :
    ofMillis zone millis = .error error := by
  cases applies with
  | secondsTooLarge beyond =>
      have unfit : ¬ Word.fits64 (millis / 1000) := by
        rw [Word.fits64_iff]
        omega
      simp [ofMillis, unfit]
  | @yearTooLarge date within day beyond =>
      have fit : Word.fits64 (millis / 1000) := Word.fits64_iff.2 within
      have unfit : ¬ Word.fits32 (date.year - 1900) := by
        rw [Word.fits32_iff]
        omega
      rw [Date.isDayOf_iff.1 day] at unfit
      simp [ofMillis, fit, unfit]
  | @yearOutOfRange date day within beyond =>
      have fit : Word.fits64 (millis / 1000) := Word.fits64_iff.2 (day.seconds_fit within)
      have year_fit : Word.fits32 (date.year - 1900) := Word.fits32_iff.2 within
      have unsupported : ¬ Date.isSupportedYear date.year := by
        rw [Date.isSupportedYear_iff]
        omega
      rw [Date.isDayOf_iff.1 day] at year_fit unsupported ⊢
      simp [ofMillis, fit, year_fit, unsupported]
  | localOutOfRange universal beyond =>
      rw [inSupportedYears_iff] at beyond
      exact (ofMillis_of_universal universal).trans (if_neg beyond)

/-- An instant whose universal and local years are supported has the timestamp of its local
seconds. -/
theorem ofMillis_of_supported (universal : InSupportedYears (millis / 1000))
    (locally : InSupportedYears (millis / 1000 + (zone.offsetAt (millis / 1000)).seconds)) :
    ofMillis zone millis =
      .ok (ofLocalSeconds (millis / 1000 + (zone.offsetAt (millis / 1000)).seconds)
        (1000 * (millis % 1000).toNat) (zone.offsetAt (millis / 1000))) :=
  (ofMillis_of_universal universal).trans (if_pos (inSupportedYears_iff.1 locally))

/-- What shows an instant is made of its local seconds. -/
theorem Shows.eq_ofLocalSeconds (shown : stamp.Shows zone millis) :
    InSupportedYears (millis / 1000 + (zone.offsetAt (millis / 1000)).seconds) ∧
    stamp = ofLocalSeconds (millis / 1000 + (zone.offsetAt (millis / 1000)).seconds)
      (1000 * (millis % 1000).toNat) (zone.offsetAt (millis / 1000)) := by
  obtain ⟨universal, ⟨supported, date_valid, time_valid⟩, ⟨days, counted, seconds⟩, micro, offset⟩ :=
    shown
  rw [offset] at seconds
  have in_day := TimeOfDay.seconds_lt time_valid
  have days_eq : (millis / 1000 + (zone.offsetAt (millis / 1000)).seconds) / 86400 = days := by omega
  have seconds_eq : ((millis / 1000 + (zone.offsetAt (millis / 1000)).seconds) % 86400).toNat =
      stamp.time.seconds := by omega
  have micro_eq : 1000 * (millis % 1000).toNat = stamp.time.microsecond := by omega
  have day : stamp.date.IsDayOf
      (millis / 1000 + (zone.offsetAt (millis / 1000)).seconds) := by
    rw [← days_eq] at counted
    exact ⟨date_valid, counted⟩
  refine ⟨⟨stamp.date, day, Date.isSupportedYear_iff.1 supported⟩, ?_⟩
  rw [ofLocalSeconds, seconds_eq, micro_eq, TimeOfDay.ofSeconds_seconds time_valid,
    ← Date.isDayOf_iff.1 day, ← offset]

/-- The timestamp of an instant shows it. -/
theorem shows_of_supported (universal : InSupportedYears (millis / 1000))
    (locally : InSupportedYears (millis / 1000 + (zone.offsetAt (millis / 1000)).seconds)) :
    (ofLocalSeconds (millis / 1000 + (zone.offsetAt (millis / 1000)).seconds)
      (1000 * (millis % 1000).toNat) (zone.offsetAt (millis / 1000))).Shows zone millis := by
  have valid := valid_of_ofMillis (ofMillis_of_supported universal locally)
  refine ⟨universal, valid, ⟨_, (Date.isDayOf_ofDayNumber _).counted, ?_⟩, ?_, rfl⟩
  · simp only [ofLocalSeconds, TimeOfDay.seconds_ofSeconds]
    omega
  · simp only [ofLocalSeconds, TimeOfDay.ofSeconds]
    omega

/-- An instant has what shows it as its timestamp. -/
theorem ofMillis_of_shows (shown : stamp.Shows zone millis) : ofMillis zone millis = .ok stamp := by
  obtain ⟨locally, made⟩ := shown.eq_ofLocalSeconds
  rw [made]
  exact ofMillis_of_supported shown.universal locally

/-- There is a timestamp or a reason to have none. -/
theorem shows_or_applies (zone : Zone) (millis : Int) :
    (∃ stamp : ZonedTimestamp, stamp.Shows zone millis) ∨
      ∃ error : InstantError, error.Applies zone millis := by
  have day := Date.isDayOf_ofDayNumber (millis / 1000)
  by_cases fit : -2 ^ 63 ≤ millis / 1000 ∧ millis / 1000 < 2 ^ 63
  · by_cases within : -2 ^ 31 ≤ (Date.ofDayNumber (millis / 1000 / 86400)).year - 1900 ∧
        (Date.ofDayNumber (millis / 1000 / 86400)).year - 1900 < 2 ^ 31
    · by_cases universal : InSupportedYears (millis / 1000)
      · by_cases locally : InSupportedYears
            (millis / 1000 + (zone.offsetAt (millis / 1000)).seconds)
        · exact .inl ⟨_, shows_of_supported universal locally⟩
        · exact .inr ⟨_, .localOutOfRange universal locally⟩
      · rw [inSupportedYears_iff, Date.isSupportedYear_iff] at universal
        exact .inr ⟨_, .yearOutOfRange day within (by omega)⟩
    · exact .inr ⟨_, .yearTooLarge fit day (by omega)⟩
  · exact .inr ⟨_, .secondsTooLarge (by omega)⟩

/-- A timestamp is made when it shows the instant, and only that one. -/
theorem ofMillis_eq_ok_iff : ofMillis zone millis = .ok stamp ↔ stamp.Shows zone millis := by
  refine ⟨fun made => ?_, ofMillis_of_shows⟩
  rcases shows_or_applies zone millis with ⟨other, shown⟩ | ⟨error, applies⟩
  · rw [ofMillis_of_shows shown] at made
    cases made
    exact shown
  · rw [ofMillis_of_applies applies] at made
    cases made

/-- An error is given when its range holds of the instant, and only that one. -/
theorem ofMillis_eq_error_iff :
    ofMillis zone millis = .error error ↔ error.Applies zone millis := by
  refine ⟨fun failed => ?_, ofMillis_of_applies⟩
  rcases shows_or_applies zone millis with ⟨stamp, shown⟩ | ⟨other, applies⟩
  · rw [ofMillis_of_shows shown] at failed
    cases failed
  · rw [ofMillis_of_applies applies] at failed
    cases failed
    exact applies

/-- A timestamp shows one instant at most, whatever the zone. -/
theorem Shows.millis_eq {other_zone : Zone} {other_millis : Int} {other : ZonedTimestamp}
    (shown : stamp.Shows zone millis) (other_shown : other.Shows other_zone other_millis)
    (date : stamp.date = other.date) (time : stamp.time = other.time)
    (offset : stamp.offset.seconds = other.offset.seconds) : millis = other_millis := by
  obtain ⟨days, counted, seconds⟩ := shown.seconds
  obtain ⟨other_days, other_counted, other_seconds⟩ := other_shown.seconds
  have same_days : days = other_days := by
    rw [Date.isCounted_iff_dayNumber shown.valid.date] at counted
    rw [Date.isCounted_iff_dayNumber other_shown.valid.date, ← date] at other_counted
    exact counted.symm.trans other_counted
  have micro := shown.microsecond
  have other_micro := other_shown.microsecond
  rw [time] at seconds micro
  omega

end ZonedTimestamp

open ZonedTimestamp

/-- Every instant has a timestamp in a zone exactly if its universal and its local time are in the
years 1 to 9999. Its timestamp is the one that shows it, and shows no other instant, in no zone;
otherwise exactly one reason applies. -/
theorem ofMillis_exact (zone : Zone) (millis : Int) :
    ((∃ stamp, ofMillis zone millis = .ok stamp) ↔ InSupportedYears (millis / 1000) ∧
      InSupportedYears (millis / 1000 + (zone.offsetAt (millis / 1000)).seconds)) ∧
    (∀ stamp, ofMillis zone millis = .ok stamp ↔ stamp.Shows zone millis) ∧
    (∀ error, ofMillis zone millis = .error error ↔ error.Applies zone millis) ∧
    ∀ other_zone other_millis stamp other, ofMillis zone millis = .ok stamp →
      ofMillis other_zone other_millis = .ok other → stamp.date = other.date →
      stamp.time = other.time → stamp.offset.seconds = other.offset.seconds →
      millis = other_millis := by
  refine ⟨⟨?_, ?_⟩, fun _ => ofMillis_eq_ok_iff, fun _ => ofMillis_eq_error_iff, ?_⟩
  · rintro ⟨stamp, made⟩
    have shown := ofMillis_eq_ok_iff.1 made
    exact ⟨shown.universal, shown.eq_ofLocalSeconds.1⟩
  · rintro ⟨universal, locally⟩
    exact ⟨_, ofMillis_of_supported universal locally⟩
  · intro other_zone other_millis stamp other made other_made
    exact (ofMillis_eq_ok_iff.1 made).millis_eq (ofMillis_eq_ok_iff.1 other_made)

/-- What the clocks of Monrovia, 44 minutes and 30 seconds late then, show one millisecond before
1970. -/
def beforeEpochInMonrovia : ZonedTimestamp :=
  ⟨⟨1969, 12, 31⟩, ⟨23, 15, 29, 999000⟩, Zone.Monrovia.mmtSecond⟩

/-- The millisecond before 1970 has its timestamp in Monrovia to itself. -/
theorem ofMillis_exact_monrovia :
    ofMillis (.ofTable Zone.Monrovia.table) (-1) = .ok beforeEpochInMonrovia ∧
    beforeEpochInMonrovia.Shows (.ofTable Zone.Monrovia.table) (-1) ∧
    ∀ zone millis, ofMillis zone millis = .ok beforeEpochInMonrovia → millis = -1 := by
  obtain ⟨_, shown, _, alone⟩ := ofMillis_exact (.ofTable Zone.Monrovia.table) (-1)
  have made : ofMillis (.ofTable Zone.Monrovia.table) (-1) = .ok beforeEpochInMonrovia := by
    decide +kernel
  refine ⟨made, (shown _).1 made, fun zone millis other => ?_⟩
  exact (alone zone millis _ _ made other rfl rfl rfl).symm

end RecordingName
