import RecordingName.DateFormat.Formatter

/-!
# Timestamps from fields

The fields of a written timestamp are resolved to the most that they determine: a
local time with an offset, a local time, or the start of a day. Digits that name
no date, time or offset determine none.
-/

namespace RecordingName.DateFormat

namespace Fields

/-- The number that a field holds. -/
def number? (fields : Fields) (field : Field) : Option Nat :=
  (fields.find? field).map Text.toNumber

/-- The year, where two digits stand for 1969 to 2068. -/
def year? (fields : Fields) : Option Nat :=
  match fields.number? .year with
  | some year => some year
  | none => (fields.number? .shortYear).map fun short => short + if short < 69 then 2000 else 1900

end Fields

/-- A text with its ASCII letters in lower case. -/
def lowerWord (text : Text) : Text :=
  text.map CodePoint.toLower

/-- The number of the month with a name, in full or abbreviated, in any case. -/
def monthNumber? (name : Text) : Option Nat :=
  let numberIn (names : List Text) : Option Nat :=
    (names.findIdx? fun candidate => lowerWord candidate = lowerWord name).map (· + 1)
  (numberIn monthNames).or (numberIn (monthNames.map abbreviate))

/-- A date, if there is such a day in a supported year. -/
def dateOf? (year month day : Nat) : Option Date :=
  let date : Date := ⟨year, month, day⟩
  if Date.isSupportedYear date.year ∧ date.Valid then some date else none

/-- The date with a number within a supported year, if the year is so long. -/
def dateOfYearDay? (year day : Nat) : Option Date :=
  if Date.isSupportedYear year ∧ 1 ≤ day ∧ day ≤ Date.daysInYear (Date.isLeap year) then
    some (Date.ofYearDay year (day - 1))
  else
    none

/-- A time of day, if there is such a one. -/
def timeOf? (hour minute second microsecond : Nat) : Option TimeOfDay :=
  let time : TimeOfDay := ⟨hour, minute, second, microsecond⟩
  if time.Valid then some time else none

/-- The microseconds that the digits of a fraction stand for: six digits, where missing
ones are zeros and those beyond the sixth are dropped. -/
def microsecondsOf (digits : Text) : Nat :=
  Text.toNumber (digits.take 6 ++ List.replicate (6 - digits.length) (.scalar '0'))

namespace Fields

/-- The date that the fields determine. The day of the year counts before month and
day. -/
def date? (fields : Fields) : Option Date :=
  fields.year?.bind fun year =>
    match fields.number? .dayOfYear with
    | some day => dateOfYearDay? year day
    | none =>
        let month? := match fields.number? .month with
          | some month => some month
          | none => (fields.find? .monthName).bind monthNumber?
        month?.bind fun month => (fields.number? .day).bind fun day => dateOf? year month day

/-- The hour that the fields determine: the hour of the day, or else the hour of its
half. -/
def hour? (fields : Fields) : Option Nat :=
  match fields.number? .hour with
  | some hour => some hour
  | none =>
      (fields.number? .hour12).bind fun hour => (fields.find? .half).bind fun half =>
        if 1 ≤ hour ∧ hour ≤ 12 then
          some (hour % 12 + if lowerWord half = [CodePoint.scalar 'p', 'm'] then 12 else 0)
        else
          none

/-- The time of day that the fields determine. What is not given besides the hour is
zero. -/
def time? (fields : Fields) : Option TimeOfDay :=
  fields.hour?.bind fun hour =>
    timeOf? hour ((fields.number? .minute).getD 0) ((fields.number? .second).getD 0)
      (microsecondsOf ((fields.find? .fraction).getD []))

/-- The seconds that the text of an offset stands for. -/
def offsetSeconds (text : Text) : Int :=
  let digits := text.drop 1
  let size := 3600 * Text.toNumber (digits.take 2) + 60 * Text.toNumber ((digits.drop 2).take 2) +
    Text.toNumber ((digits.drop 4).take 2)
  if text.head? = some (.scalar '-') then -size else size

/-- The offset that the fields determine. -/
def offset? (fields : Fields) : Option Offset :=
  (fields.find? .offset).bind fun text =>
    if text = [CodePoint.scalar 'Z'] then some Offset.utc else Offset.fixed? (offsetSeconds text)

/-- The fields as a local time with an offset. -/
def asZoned? (fields : Fields) : Option Timestamp :=
  fields.date?.bind fun date => fields.time?.bind fun time => fields.offset?.map fun offset =>
    ⟨date, time, some offset⟩

/-- The fields as a local time. -/
def asLocal? (fields : Fields) : Option Timestamp :=
  fields.date?.bind fun date => fields.time?.map fun time => ⟨date, time, none⟩

/-- The fields as the start of a day. -/
def asStartOfDay? (fields : Fields) : Option Timestamp :=
  fields.date?.map fun date => ⟨date, .midnight, none⟩

/-- The most that the fields determine. -/
def timestamp? (fields : Fields) : Option Timestamp :=
  fields.asZoned?.or (fields.asLocal?.or fields.asStartOfDay?)

/-- Fields determine a timestamp exactly when they determine a date. -/
theorem timestamp?_isSome_iff (fields : Fields) :
    fields.timestamp?.isSome ↔ fields.date?.isSome := by
  cases date : fields.date? <;>
    simp [timestamp?, asZoned?, asLocal?, asStartOfDay?, date]

end Fields

/-- The timestamp that a formatter reads at the start of a text. -/
def Formatter.read? (formatter : Formatter) (text : Text) : Option Timestamp :=
  (formatter.match? text).bind Fields.timestamp?

end RecordingName.DateFormat
