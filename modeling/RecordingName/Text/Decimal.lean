import RecordingName.Text.Digit

/-!
# Numbers in decimal

Numbers are written with ASCII digits, plainly, with a sign, or filled up with
zeros to a least width.
-/

namespace RecordingName.Text

/-- A number in decimal, without leading zeros. -/
def decimal (number : Nat) : Text :=
  (Nat.toDigits 10 number).map .scalar

/-- An integer in decimal, with a minus sign when it is negative. -/
def signedDecimal : Int → Text
  | .ofNat number => decimal number
  | .negSucc number => .scalar '-' :: decimal (number + 1)

/-- A number in decimal, filled up with leading zeros to at least `width` digits. -/
def padded (width number : Nat) : Text :=
  List.replicate (width - (decimal number).length) (.scalar '0') ++ decimal number

end RecordingName.Text
