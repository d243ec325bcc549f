import RecordingName.Calendar.Timestamp
import RecordingName.DateFormat.Piece

/-!
# Directives

A directive stands for one part of a timestamp in a date pattern. Each has a
letter, a way to write its part, and a piece that reads it back.
`ofLetter?_letter` says that letters tell directives apart.
-/

namespace RecordingName.DateFormat

/-- The parts of a timestamp that a date pattern can ask for. -/
inductive Directive where
  | year
  | shortYear
  | month
  | monthAbbreviation
  | monthName
  | day
  | dayOfYear
  | weekdayAbbreviation
  | weekdayName
  | hour
  | hour12
  | half
  | minute
  | second
  | microsecond
  | offset
  | zoneName
  deriving DecidableEq, Repr

/-- The names of the months. -/
def monthNames : List Text :=
  ["January".text, "February".text, "March".text, "April".text, "May".text,
    "June".text, "July".text, "August".text, "September".text, "October".text,
    "November".text, "December".text]

/-- The names of the days of the week, from Monday. -/
def weekdayNames : List Text :=
  ["Monday".text, "Tuesday".text, "Wednesday".text, "Thursday".text, "Friday".text,
    "Saturday".text, "Sunday".text]

/-- The abbreviation of a month or a weekday: its first three letters. -/
def abbreviate (name : Text) : Text :=
  name.take 3

/-- An offset as a sign, hours, minutes and, unless they are zero, seconds, without
separators; `zeroText` for none. -/
def offsetText (zeroText : Text) (seconds : Int) : Text :=
  if seconds = 0 then zeroText
  else
    let size := seconds.natAbs
    let sign : CodePoint := if seconds < 0 then '-' else '+'
    let clock := sign :: Text.padded 2 (size / 3600) ++ Text.padded 2 (size / 60 % 60)
    if size % 60 = 0 then clock else clock ++ Text.padded 2 (size % 60)

/-- The text of an offset that is written even when it is zero. -/
def plainOffsetText (seconds : Int) : Text :=
  offsetText "+0000".text seconds

namespace Directive

/-- Every directive. -/
def all : List Directive :=
  [.year, .shortYear, .month, .monthAbbreviation, .monthName, .day, .dayOfYear,
    .weekdayAbbreviation, .weekdayName, .hour, .hour12, .half, .minute, .second, .microsecond,
    .offset, .zoneName]

/-- The letter of a directive, behind the percent sign. -/
def letter : Directive → CodePoint
  | .year => 'Y'
  | .shortYear => 'y'
  | .month => 'm'
  | .monthAbbreviation => 'b'
  | .monthName => 'B'
  | .day => 'd'
  | .dayOfYear => 'j'
  | .weekdayAbbreviation => 'a'
  | .weekdayName => 'A'
  | .hour => 'H'
  | .hour12 => 'I'
  | .half => 'p'
  | .minute => 'M'
  | .second => 'S'
  | .microsecond => 'f'
  | .offset => 'z'
  | .zoneName => 'Z'

/-- The directive of a letter. -/
def ofLetter? (c : CodePoint) : Option Directive :=
  all.find? (·.letter = c)

/-- The piece that reads a directive back. -/
def piece : Directive → Piece
  | .year => .digits .year 4 4
  | .shortYear => .digits .shortYear 2 2
  | .month => .digits .month 2 2
  | .monthAbbreviation => .word (some .monthName) (monthNames.map abbreviate)
  | .monthName => .word (some .monthName) monthNames
  | .day => .digits .day 2 2
  | .dayOfYear => .digits .dayOfYear 3 3
  | .weekdayAbbreviation => .word none (weekdayNames.map abbreviate)
  | .weekdayName => .word none weekdayNames
  | .hour => .digits .hour 2 2
  | .hour12 => .digits .hour12 2 2
  | .half => .word (some .half) [['A', 'M'], ['P', 'M']]
  | .minute => .digits .minute 2 2
  | .second => .digits .second 2 2
  | .microsecond => .digits .fraction 1 6
  | .offset => .offset true
  | .zoneName => .zoneName

/-- What a directive writes for a timestamp. The year has no leading zeros; an
offset that is not known leaves no trace. -/
def write (stamp : Timestamp) : Directive → Text
  | .year => Text.decimal stamp.date.year.toNat
  | .shortYear => Text.padded 2 (stamp.date.year % 100).toNat
  | .month => Text.padded 2 stamp.date.month
  | .monthAbbreviation => abbreviate (monthNames.getD (stamp.date.month - 1) [])
  | .monthName => monthNames.getD (stamp.date.month - 1) []
  | .day => Text.padded 2 stamp.date.day
  | .dayOfYear => Text.padded 3 stamp.date.dayOfYear
  | .weekdayAbbreviation => abbreviate (weekdayNames.getD stamp.date.weekday [])
  | .weekdayName => weekdayNames.getD stamp.date.weekday []
  | .hour => Text.padded 2 stamp.time.hour
  | .hour12 => Text.padded 2 ((stamp.time.hour + 11) % 12 + 1)
  | .half => if stamp.time.hour < 12 then ['A', 'M'] else ['P', 'M']
  | .minute => Text.padded 2 stamp.time.minute
  | .second => Text.padded 2 stamp.time.second
  | .microsecond => Text.padded 6 stamp.time.microsecond
  | .offset =>
      match stamp.offset with
      | none => []
      | some known => plainOffsetText known.seconds
  | .zoneName =>
      match stamp.offset with
      | none => []
      | some known => known.abbreviation

/-- Letters tell directives apart. -/
theorem ofLetter?_letter (directive : Directive) : ofLetter? directive.letter = some directive := by
  cases directive <;> decide

end Directive
end RecordingName.DateFormat
