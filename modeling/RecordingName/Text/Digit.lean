import RecordingName.Text.Basic

/-!
# Decimal digits

Every Unicode decimal digit (general category Nd) counts as a digit, in whatever
script. Digits come in blocks of ten consecutive code points in the order of
their values, so the table holds the zero of each block.
`isDigit_of_core` says that the ASCII digits are among them.
-/

namespace RecordingName.Text

/-- The code point of the zero of each block of decimal digits. -/
def digitZeros : List Nat := [
  0x30, 0x660, 0x6F0, 0x7C0, 0x966, 0x9E6, 0xA66, 0xAE6, 0xB66, 0xBE6, 0xC66, 0xCE6, 0xD66,
  0xDE6, 0xE50, 0xED0, 0xF20, 0x1040, 0x1090, 0x17E0, 0x1810, 0x1946, 0x19D0, 0x1A80, 0x1A90,
  0x1B50, 0x1BB0, 0x1C40, 0x1C50, 0xA620, 0xA8D0, 0xA900, 0xA9D0, 0xA9F0, 0xAA50, 0xABF0,
  0xFF10, 0x104A0, 0x10D30, 0x11066, 0x110F0, 0x11136, 0x111D0, 0x112F0, 0x11450, 0x114D0,
  0x11650, 0x116C0, 0x11730, 0x118E0, 0x11950, 0x11C50, 0x11D50, 0x11DA0, 0x16A60, 0x16AC0,
  0x16B50, 0x1D7CE, 0x1D7D8, 0x1D7E2, 0x1D7EC, 0x1D7F6, 0x1E140, 0x1E2F0, 0x1E950, 0x1FBF0]

/-- The value of a decimal digit. -/
def digitValue? (c : CodePoint) : Option Nat :=
  (digitZeros.find? fun start => start ≤ c.toNat && c.toNat < start + 10).map (c.toNat - ·)

/-- Whether a character is a decimal digit. -/
def isDigit (c : CodePoint) : Bool :=
  (digitValue? c).isSome

/-- The value of a character as a digit, where anything else counts as zero. -/
def digitValue (c : CodePoint) : Nat :=
  (digitValue? c).getD 0

/-- The number that a text of digits denotes. -/
def toNumber (text : Text) : Nat :=
  text.foldl (fun number c => 10 * number + digitValue c) 0

/-- What core counts as a digit has its usual value. -/
theorem digitValue?_of_isDigit {c : CodePoint} (digit : c.isDigit) :
    digitValue? c = some (c.toNat - 48) := by
  obtain ⟨lower, upper⟩ := CodePoint.isDigit_iff_toNat.1 digit
  have inside : (decide (0x30 ≤ c.toNat) && decide (c.toNat < 0x30 + 10)) = true := by
    simp; omega
  simp only [digitValue?, digitZeros, List.find?_cons, inside, Option.map_some]

/-- The ASCII digits are digits. -/
theorem isDigit_of_core {c : CodePoint} (digit : c.isDigit) : isDigit c := by
  simp [isDigit, digitValue?_of_isDigit digit]

/-- A digit that is not one of the ASCII digits is no ASCII character. -/
theorem isDigit_or_large {c : CodePoint} (digit : isDigit c) : c.isDigit ∨ 128 ≤ c.toNat := by
  obtain ⟨value, valued⟩ := Option.isSome_iff_exists.1 digit
  obtain ⟨start, found, -⟩ := Option.map_eq_some_iff.1 valued
  have inside := List.find?_some found
  have known : ∀ start ∈ digitZeros, start = 48 ∨ 128 ≤ start := by decide
  simp only [Bool.and_eq_true, decide_eq_true_eq] at inside
  rw [CodePoint.isDigit_iff_toNat]
  rcases known start (List.mem_of_find?_eq_some found) with rfl | large <;> omega

end RecordingName.Text
