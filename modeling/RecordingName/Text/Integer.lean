import RecordingName.Text.Blank
import RecordingName.Text.Decimal

/-!
# Reading integers

An integer is a sign, if any, and decimal digits of any script, where single
underscores may stand between digits, and blanks around the whole. The
information separators are not among these blanks, and more than 4300 digits are
refused.
-/

namespace RecordingName.Text

/-- The digits of a number whose first digit has been read. -/
def digitsBehind : Text → Option Text
  | [] => some []
  | head :: rest =>
      if head = '_' then
        match rest with
        | [] => none
        | digit :: others => if isDigit digit then (digitsBehind others).map (digit :: ·) else none
      else if isDigit head then (digitsBehind rest).map (head :: ·)
      else none

/-- The digits of a number that may have underscores between them. -/
def groupedDigits? : Text → Option Text
  | [] => none
  | head :: rest => if isDigit head then (digitsBehind rest).map (head :: ·) else none

/-- Whether a character may stand around an integer. -/
def isNumberBlank (c : CodePoint) : Bool :=
  isBlank c && !(0x1C ≤ c.toNat && c.toNat ≤ 0x1F)

/-- The number of the most digits that are read. -/
def mostDigits : Nat := 4300

/-- The number that digits denote, if they are not too many. -/
def limitedNumber? (digits : Text) : Option Nat :=
  if digits.length ≤ mostDigits then some (toNumber digits) else none

/-- The integer that a text denotes. -/
def toInteger? (text : Text) : Option Int :=
  let inner := ((text.dropWhile isNumberBlank).reverse.dropWhile isNumberBlank).reverse
  match inner with
  | .scalar '-' :: digits =>
      ((groupedDigits? digits).bind limitedNumber?).map fun number => -(number : Int)
  | .scalar '+' :: digits =>
      ((groupedDigits? digits).bind limitedNumber?).map fun number => (number : Int)
  | digits => ((groupedDigits? digits).bind limitedNumber?).map fun number => (number : Int)

end RecordingName.Text
