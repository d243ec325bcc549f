import RecordingName.Text.Decimal
import RecordingName.Word

/-!
# Durations

A duration is a number of microseconds, of fewer than a thousand million days in
either direction. Its seconds are kept as a binary number of 53 digits, so that a
long duration just below a whole second counts as that second;
`wholeSeconds_ofSeconds` says that whole seconds are kept as they are.
-/

namespace RecordingName

/-- A length of time in microseconds. -/
structure Duration where
  micros : Int
  deriving DecidableEq, Repr

/-- Why there is no duration. -/
inductive DurationError where
  /-- There are a thousand million days or more. -/
  | daysOutOfRange (days : Int)
  /-- The days do not even fit 32 bits. -/
  | daysTooLarge
  deriving DecidableEq, Repr

namespace Duration

/-- The days of a duration, rounded towards the past. -/
def days (duration : Duration) : Int :=
  duration.micros / 86400000000

/-- A duration, if its days are in range. -/
def ofMicros? (micros : Int) : Except DurationError Duration :=
  let days := Duration.days ⟨micros⟩
  if !Word.fits32 days then .error .daysTooLarge
  else if days < -999999999 ∨ 999999999 < days then .error (.daysOutOfRange days)
  else .ok ⟨micros⟩

/-- The message about days out of range. -/
def rangeMessage (days : Int) : Text :=
  "days=".text ++ Text.signedDecimal days ++ "; must have magnitude <= 999999999".text

/-- The whole seconds in `size` microseconds, once these have been rounded to 53 binary
digits of seconds. Above `whole` seconds such numbers are `2^(whole.log2 - 52)` apart, so
what lacks no more than half of that to the next second counts as that second. -/
def wholeSize (size : Nat) : Nat :=
  let whole := size / 1000000
  let lacking := 1000000 - size % 1000000
  if lacking * 9007199254740992 ≤ 1000000 * (1 <<< whole.log2) then whole + 1 else whole

/-- The whole seconds of a duration, towards zero. -/
def wholeSeconds (duration : Duration) : Int :=
  if duration.micros < 0 then -(wholeSize duration.micros.natAbs : Int)
  else wholeSize duration.micros.natAbs

/-- Whole seconds of up to 53 binary digits are kept. -/
theorem wholeSize_mul {whole : Nat} (short : whole < 9007199254740992) :
    wholeSize (1000000 * whole) = whole := by
  have power : 1 <<< whole.log2 < 9007199254740992 := by
    rw [Nat.one_shiftLeft]
    by_cases zero : whole = 0
    · subst zero
      decide
    · exact Nat.lt_of_le_of_lt (Nat.log2_self_le zero) short
  simp only [wholeSize, Nat.mul_mod_right, Nat.mul_div_cancel_left whole (by decide : 0 < 1000000)]
  exact if_neg (by omega)

/-- A duration of whole seconds has that many. -/
theorem wholeSeconds_ofSeconds {seconds : Int} (short : seconds.natAbs < 9007199254740992) :
    wholeSeconds ⟨1000000 * seconds⟩ = seconds := by
  have size : (1000000 * seconds).natAbs = 1000000 * seconds.natAbs := Int.natAbs_mul ..
  simp only [wholeSeconds, size, wholeSize_mul short]
  split <;> omega

end Duration
end RecordingName
