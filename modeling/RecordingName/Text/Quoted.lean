import RecordingName.Text.Printable

/-!
# Quoted text

A text between quotes, as messages show it: single quotes unless the text has
single quotes and no double ones; the chosen quote and the backslash escaped;
line feed, carriage return and tab by name; whatever else does not print by its
code point in hexadecimal, with as many digits as its size needs.
-/

namespace RecordingName.Text

/-- A number in hexadecimal, with exactly `width` digits. -/
def hexadecimal : (width number : Nat) → Text
  | 0, _ => []
  | width + 1, number => hexadecimal width (number / 16) ++ [.scalar (Nat.digitChar (number % 16))]

/-- The quote for a text: single, unless that would need escapes that double
quotes avoid. -/
def quoteFor (text : Text) : CodePoint :=
  if text.contains '\'' && !text.contains '"' then '"' else '\''

/-- A character inside quotes. -/
def quotedChar (quote c : CodePoint) : Text :=
  if c = quote || c = '\\' then ['\\', c]
  else if c = '\n' then ['\\', 'n']
  else if c = '\r' then ['\\', 'r']
  else if c = '\t' then ['\\', 't']
  else if isPrintable c then [c]
  else if c.toNat < 0x100 then .scalar '\\' :: .scalar 'x' :: hexadecimal 2 c.toNat
  else if c.toNat < 0x10000 then .scalar '\\' :: .scalar 'u' :: hexadecimal 4 c.toNat
  else .scalar '\\' :: .scalar 'U' :: hexadecimal 8 c.toNat

/-- A text between quotes. -/
def quoted (text : Text) : Text :=
  let quote := quoteFor text
  quote :: text.flatMap (quotedChar quote) ++ [quote]

@[simp] theorem length_hexadecimal (width number : Nat) :
    (hexadecimal width number).length = width := by
  induction width generalizing number with
  | zero => rfl
  | succ width ih => simp [hexadecimal, ih]

end RecordingName.Text
