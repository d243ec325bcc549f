/-!
# Words

The whole numbers of a fixed width in binary digits, with a sign. `wrap32_eq_self`
says that wrapping leaves alone what fits.
-/

namespace RecordingName.Word

/-- Whether a number fits a signed word of 32 bits. -/
def fits32 (number : Int) : Bool :=
  -2147483648 ≤ number && number ≤ 2147483647

/-- Whether a number fits a signed word of 64 bits. -/
def fits64 (number : Int) : Bool :=
  -9223372036854775808 ≤ number && number ≤ 9223372036854775807

/-- The signed word of 32 bits that has the last 32 binary digits of a number. -/
def wrap32 (number : Int) : Int :=
  number.bmod 4294967296

/-- What fits stays as it is. -/
theorem wrap32_eq_self {number : Int} (fits : fits32 number) : wrap32 number = number := by
  simp only [fits32, Bool.and_eq_true, decide_eq_true_eq] at fits
  exact Int.bmod_eq_of_le (by omega) (by omega)

end RecordingName.Word
