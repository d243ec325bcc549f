import RecordingName.Word
import RecordingName.Zone.Basic

/-!
# Instants as timestamps

An instant in milliseconds since 1970-01-01 of universal time has a local
timestamp in every zone, as long as both its universal and its local year are
among the supported ones. `localSeconds_ofLocalSeconds` says that a timestamp
shows the very second that it was made from.
-/

namespace RecordingName

/-- Why an instant has no timestamp. -/
inductive InstantError where
  /-- The seconds do not fit 64 bits. -/
  | secondsTooLarge
  /-- The year does not fit 32 bits, counted from 1900. -/
  | yearTooLarge
  /-- The year, as a word of 32 bits, is not among the supported ones. -/
  | yearOutOfRange (year : Int)
  /-- Only the local year is not among the supported ones. -/
  | localOutOfRange
  deriving DecidableEq, Repr

/-- The message about an instant without a timestamp. -/
def InstantError.message : InstantError → Text
  | .secondsTooLarge => "timestamp out of range for platform time_t".text
  | .yearTooLarge => "[Errno 75] Value too large for defined data type".text
  | .yearOutOfRange year => "year ".text ++ Text.signedDecimal year ++ " is out of range".text
  | .localOutOfRange => "date value out of range".text

namespace ZonedTimestamp

/-- The timestamp whose local clock shows the given seconds since 1970-01-01. -/
def ofLocalSeconds (seconds : Int) (microsecond : Nat) (offset : Offset) : ZonedTimestamp :=
  ⟨Date.ofDayNumber (seconds / 86400), TimeOfDay.ofSeconds (seconds % 86400).toNat microsecond,
    offset⟩

/-- The seconds since 1970-01-01 that the local clock shows. -/
def localSeconds (stamp : ZonedTimestamp) : Int :=
  86400 * stamp.date.dayNumber + stamp.time.seconds

/-- The timestamp of an instant in a zone. -/
def ofMillis (zone : Zone) (millis : Int) : Except InstantError ZonedTimestamp :=
  let seconds := millis / 1000
  let year := (Date.ofDayNumber (seconds / 86400)).year
  if !Word.fits64 seconds then .error .secondsTooLarge
  else if !Word.fits32 (year - 1900) then .error .yearTooLarge
  else if !Date.isSupportedYear year then .error (.yearOutOfRange (Word.wrap32 year))
  else
    let offset := zone.offsetAt seconds
    let stamp := ofLocalSeconds (seconds + offset.seconds) (1000 * (millis % 1000).toNat) offset
    if Date.isSupportedYear stamp.date.year then .ok stamp else .error .localOutOfRange

/-- The local clock of a timestamp shows the seconds that it was made from. -/
theorem localSeconds_ofLocalSeconds (seconds : Int) (microsecond : Nat) (offset : Offset) :
    (ofLocalSeconds seconds microsecond offset).localSeconds = seconds := by
  simp only [localSeconds, ofLocalSeconds, Date.dayNumber_ofDayNumber, TimeOfDay.seconds_ofSeconds]
  omega

end ZonedTimestamp
end RecordingName
