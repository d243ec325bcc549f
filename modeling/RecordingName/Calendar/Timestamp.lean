import RecordingName.Calendar.Date
import RecordingName.Text.Decimal

/-!
# Timestamps

A timestamp is a local date and time of day, with the offset from universal time
where it is known. Offsets are whole seconds, less than a day in either
direction. `ofSeconds_valid` says that seconds within a day always give a time of
day that exists.
-/

namespace RecordingName

/-- An offset from universal time and the abbreviation that goes with it. -/
structure Offset where
  seconds : Int
  abbreviation : Text
  within_day : -86400 < seconds ∧ seconds < 86400
  deriving DecidableEq, Repr

namespace Offset

/-- An amount of seconds as a sign, hours, minutes and, unless they are zero, seconds. -/
def clockText (seconds : Int) : Text :=
  let size := seconds.natAbs
  let sign : CodePoint := if seconds < 0 then '-' else '+'
  let clock := sign :: Text.padded 2 (size / 3600) ++ .scalar ':' :: Text.padded 2 (size / 60 % 60)
  if size % 60 = 0 then clock else clock ++ .scalar ':' :: Text.padded 2 (size % 60)

/-- The abbreviation of an offset that belongs to no region. -/
def plainAbbreviation (seconds : Int) : Text :=
  if seconds = 0 then "UTC".text else "UTC".text ++ clockText seconds

/-- The offset zero is less than a day. -/
theorem zero_within_day : -86400 < (0 : Int) ∧ (0 : Int) < 86400 := by decide

/-- The offset zero under an abbreviation. -/
def zero (abbreviation : Text) : Offset := ⟨0, abbreviation, zero_within_day⟩

/-- Universal time. -/
def utc : Offset := zero "UTC".text

/-- A fixed offset, if it is less than a day. -/
def fixed? (seconds : Int) : Option Offset :=
  if within_day : -86400 < seconds ∧ seconds < 86400 then
    some ⟨seconds, plainAbbreviation seconds, within_day⟩
  else
    none

end Offset

/-- A time of day. -/
structure TimeOfDay where
  hour : Nat
  minute : Nat
  second : Nat
  microsecond : Nat
  deriving DecidableEq, Repr

namespace TimeOfDay

/-- The start of a day. -/
def midnight : TimeOfDay := ⟨0, 0, 0, 0⟩

/-- Whether a time of day exists. -/
def Valid (time : TimeOfDay) : Prop :=
  time.hour < 24 ∧ time.minute < 60 ∧ time.second < 60 ∧ time.microsecond < 1000000

instance (time : TimeOfDay) : Decidable time.Valid :=
  inferInstanceAs (Decidable (_ ∧ _ ∧ _ ∧ _))

/-- The seconds since the start of the day. -/
def seconds (time : TimeOfDay) : Nat :=
  3600 * time.hour + 60 * time.minute + time.second

/-- The time of day that many seconds and microseconds behind the start of the day. -/
def ofSeconds (seconds microsecond : Nat) : TimeOfDay :=
  ⟨seconds / 3600, seconds / 60 % 60, seconds % 60, microsecond⟩

/-- A time made of the seconds behind midnight is that many seconds behind it. -/
theorem seconds_ofSeconds (seconds microsecond : Nat) :
    (ofSeconds seconds microsecond).seconds = seconds := by
  simp only [TimeOfDay.seconds, ofSeconds]
  omega

/-- Seconds within a day give a time that exists. -/
theorem ofSeconds_valid {seconds microsecond : Nat} (in_day : seconds < 86400)
    (in_second : microsecond < 1000000) : (ofSeconds seconds microsecond).Valid := by
  refine ⟨?_, ?_, ?_, in_second⟩ <;> simp only [ofSeconds] <;> omega

end TimeOfDay

/-- A local date and time, with its offset from universal time where it is known. -/
structure Timestamp where
  date : Date
  time : TimeOfDay
  offset : Option Offset
  deriving DecidableEq, Repr

/-- A local date and time with its offset from universal time. -/
structure ZonedTimestamp where
  date : Date
  time : TimeOfDay
  offset : Offset
  deriving DecidableEq, Repr

/-- A zoned timestamp is a timestamp. -/
def ZonedTimestamp.toTimestamp (stamp : ZonedTimestamp) : Timestamp :=
  ⟨stamp.date, stamp.time, some stamp.offset⟩

namespace Timestamp

/-- A timestamp in the international notation, with the given character between
date and time. The fraction is left out when it is zero. -/
def text (separator : CodePoint) (stamp : Timestamp) : Text :=
  let date := Text.padded 4 stamp.date.year.toNat ++ .scalar '-' :: Text.padded 2 stamp.date.month ++
    .scalar '-' :: Text.padded 2 stamp.date.day
  let time := Text.padded 2 stamp.time.hour ++ .scalar ':' :: Text.padded 2 stamp.time.minute ++
    .scalar ':' :: Text.padded 2 stamp.time.second
  let fraction :=
    if stamp.time.microsecond = 0 then [] else .scalar '.' :: Text.padded 6 stamp.time.microsecond
  let offset := match stamp.offset with
    | none => []
    | some offset => Offset.clockText offset.seconds
  date ++ separator :: time ++ fraction ++ offset

end Timestamp
end RecordingName
