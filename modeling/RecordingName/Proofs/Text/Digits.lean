import Mathlib.Algebra.Group.Nat.Defs
import Mathlib.Data.List.Induction
import RecordingName.Text.Decimal

/-!
# Written numbers

What `decimal` and `padded` write reads back as the number: `toNumber_decimal` and
`toNumber_padded`. A number that is short enough is written in exactly the width
that was asked for, by `length_padded`. A text that `StartsApart` leaves a number in front
of it as it is.
-/

namespace RecordingName.Text

/-- A digit behind a number shifts the number by one place. -/
theorem toNumber_append_singleton (text : Text) (c : CodePoint) :
    toNumber (text ++ [c]) = 10 * toNumber text + digitValue c := by
  simp [toNumber, List.foldl_append]

/-- The value of a character as a digit is one of ten. -/
theorem digitValue_lt (c : CodePoint) : digitValue c < 10 := by
  rw [digitValue]
  cases valued : digitValue? c with
  | none => decide
  | some value =>
      obtain ⟨start, found, rfl⟩ := Option.map_eq_some_iff.1 valued
      have inside := List.find?_some found
      simp only [Bool.and_eq_true, decide_eq_true_eq] at inside
      rw [Option.getD_some]
      omega

/-- A number has no more digits than the text that it is read from. -/
theorem toNumber_lt (text : Text) : toNumber text < 10 ^ text.length := by
  induction text using List.reverseRecOn with
  | nil => decide
  | append_singleton front last ih =>
      have digit := digitValue_lt last
      rw [toNumber_append_singleton, List.length_append, List.length_singleton, Nat.pow_succ]
      omega

/-- The character of a digit has the value of the digit. -/
theorem digitValue_digitChar {digit : Nat} (single : digit < 10) :
    digitValue (.scalar digit.digitChar) = digit := by
  have ascii : CodePoint.isDigit (.scalar digit.digitChar) := by
    simpa [CodePoint.isDigit, Nat.isDigit_digitChar] using single
  rw [digitValue, digitValue?_of_isDigit ascii, Option.getD_some]
  exact Nat.toNat_digitChar_sub_48_of_lt_ten single

/-- A number reads back from its decimal form. -/
theorem toNumber_decimal (number : Nat) : toNumber (decimal number) = number := by
  induction number using Nat.strongRecOn with
  | ind number ih =>
      by_cases single : number < 10
      · rw [decimal, Nat.toDigits_of_lt_base single]
        simpa [toNumber] using digitValue_digitChar single
      · have last : number % 10 < 10 := Nat.mod_lt _ (by decide)
        have front := ih (number / 10) (by omega)
        rw [decimal] at front ⊢
        rw [Nat.toDigits_of_base_le (by decide) (Nat.le_of_not_lt single), List.map_append,
          List.map_singleton, toNumber_append_singleton, front, digitValue_digitChar last]
        omega

/-- Zeros in front of a number do not count. -/
theorem toNumber_replicate_append (count : Nat) (text : Text) :
    toNumber (List.replicate count (.scalar '0') ++ text) = toNumber text := by
  induction count with
  | zero => rfl
  | succ count ih =>
      have zero : digitValue '0' = 0 := by decide
      rw [List.replicate_succ, List.cons_append]
      simpa [toNumber, zero] using ih

/-- A number reads back from its form with leading zeros. -/
theorem toNumber_padded (width number : Nat) : toNumber (padded width number) = number := by
  rw [padded, toNumber_replicate_append, toNumber_decimal]

/-- A number is written with digits only. -/
theorem core_isDigit_of_mem_decimal {number : Nat} {c : CodePoint} (written : c ∈ decimal number) :
    c.isDigit := by
  obtain ⟨digit, member, rfl⟩ := List.mem_map.1 written
  exact Nat.isDigit_of_mem_toDigits (by decide) (by decide) member

/-- Numbers are written with digits. -/
theorem isDigit_of_mem_decimal {number : Nat} {c : CodePoint} (written : c ∈ decimal number) :
    isDigit c :=
  isDigit_of_core (core_isDigit_of_mem_decimal written)

/-- Leading zeros are digits, too, and all of them ASCII. -/
theorem core_isDigit_of_mem_padded {width number : Nat} {c : CodePoint}
    (written : c ∈ padded width number) : c.isDigit := by
  rcases List.mem_append.1 written with filled | digit
  · rw [List.eq_of_mem_replicate filled]
    decide
  · exact core_isDigit_of_mem_decimal digit

/-- So are padded ones. -/
theorem isDigit_of_mem_padded {width number : Nat} {c : CodePoint}
    (written : c ∈ padded width number) :
    isDigit c :=
  isDigit_of_core (core_isDigit_of_mem_padded written)

/-- A number is written in few digits exactly if it is small enough. -/
theorem length_decimal_le_iff {width number : Nat} (positive : 0 < width) :
    (decimal number).length ≤ width ↔ number < 10 ^ width := by
  rw [decimal, List.length_map]
  exact Nat.length_toDigits_le_iff (by decide) positive

/-- A number has at least one digit. -/
theorem decimal_ne_nil (number : Nat) : decimal number ≠ [] := by
  rw [decimal, Ne, List.map_eq_nil_iff]
  exact List.ne_nil_of_length_pos Nat.length_toDigits_pos

/-- A number that fits the width is written in exactly that width. -/
theorem length_padded {width number : Nat} (positive : 0 < width)
    (fits : number < Nat.pow 10 width) : (padded width number).length = width := by
  have short := (length_decimal_le_iff positive).2 fits
  rw [padded, List.length_append, List.length_replicate]
  omega

/-- Numbers below a hundred are written in two digits. -/
theorem length_padded_two {number : Nat} (fits : number < 100) : (padded 2 number).length = 2 :=
  length_padded (by decide) fits

/-- A text that cannot go on with a number: it does not start with a digit. -/
def StartsApart (text : Text) : Prop :=
  ∀ c ∈ text.head?, isDigit c = false

theorem StartsApart.nil : StartsApart [] := by
  intro c at_start
  cases at_start

theorem StartsApart.cons {c : CodePoint} (other : isDigit c = false) (rest : Text) :
    StartsApart (c :: rest) := by
  intro first at_start
  cases at_start
  exact other

theorem StartsApart.append {first second : Text} (apart : StartsApart first)
    (behind : StartsApart second) : StartsApart (first ++ second) := by
  cases first with
  | nil => exact behind
  | cons c rest => exact .cons (apart c rfl) _

/-- A text that begins like one that starts apart does so, too. -/
theorem StartsApart.of_start {start text : Text} (apart : StartsApart text)
    (begins : start <+: text) : StartsApart start := by
  obtain ⟨rest, rfl⟩ := begins
  cases start with
  | nil => exact .nil
  | cons c more => exact .cons (apart c rfl) _

end RecordingName.Text
