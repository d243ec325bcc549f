import RecordingName.Text.Blank

/-!
# Lines

The last line of a text. Lines end with a line feed; every other character stands
within a line.
-/

namespace RecordingName.Text

/-- What follows the last line feed of a text, once the blanks at its end are taken
away. -/
def lastLine (text : Text) : Text :=
  ((stripEnd text).reverse.takeWhile (· ≠ .scalar '\n')).reverse

end RecordingName.Text
