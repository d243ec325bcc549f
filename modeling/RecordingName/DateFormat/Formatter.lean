import RecordingName.DateFormat.Pattern
import RecordingName.Text.Encoding

/-!
# Formatters

A formatter writes timestamps and reads the fields of written ones at the start
of a text, whatever follows them. The standard format looks like
`20220429_180249.123-0400`; any other is given by a date pattern. A pattern with a surrogate is
one, too, but nothing can be written by it: `format_eq_ok_iff` tells what is written.
-/

namespace RecordingName.DateFormat

/-- A way to write timestamps. -/
inductive Formatter where
  | standard
  | custom (pattern : Pattern)
  deriving DecidableEq, Repr

/-- Why a timestamp is not written. -/
inductive FormatError where
  /-- The standard format asks for an offset. -/
  | withoutOffset (stamp : Timestamp)
  /-- The pattern holds a surrogate. -/
  | encoding (error : Text.EncodingError)
  deriving DecidableEq, Repr

/-- The message about a timestamp that is not written. -/
def FormatError.message : FormatError → Text
  | .withoutOffset stamp => "Cannot format naive datetime: ".text ++ stamp.text ' '
  | .encoding error => error.message

/-- A text without the zeros at its end. -/
def dropLastZeros (text : Text) : Text :=
  (text.reverse.dropWhile (· = .scalar '0')).reverse

/-- What the standard format writes. The fraction loses its zeros at the end, and
its point if nothing is left. -/
def writeStandard (stamp : ZonedTimestamp) : Text :=
  let date := Text.padded 4 stamp.date.year.toNat ++ Text.padded 2 stamp.date.month ++
    Text.padded 2 stamp.date.day
  let time := Text.padded 2 stamp.time.hour ++ Text.padded 2 stamp.time.minute ++
    Text.padded 2 stamp.time.second
  let fraction := match dropLastZeros (Text.padded 6 stamp.time.microsecond) with
    | [] => []
    | digits => .scalar '.' :: digits
  date ++ .scalar '_' :: time ++ fraction ++ plainOffsetText stamp.offset.seconds

/-- The pieces of the standard format. -/
def standardPieces : List Piece :=
  [.digits .year 4 10, .digits .month 2 2, .digits .day 2 2, .literal '_', .digits .hour 2 2,
    .digits .minute 2 2, .digits .second 2 2, .fraction, .offset false]

namespace Formatter

/-- A formatter as messages show it. -/
def shown : Formatter → Text
  | .standard => "DefaultFormatter()".text
  | .custom pattern =>
      "StrftimeFormatter(".text ++ Text.quoted pattern.print ++ [CodePoint.scalar ')']

/-- What a formatter writes for a zoned timestamp, unless its pattern cannot be encoded. -/
def write (stamp : ZonedTimestamp) : Formatter → Text
  | .standard => writeStandard stamp
  | .custom pattern => pattern.write stamp.toTimestamp

/-- What stands in the way of writing by a formatter. -/
def encodingError? : Formatter → Option Text.EncodingError
  | .standard => none
  | .custom pattern => pattern.print.encodingError?

/-- Whether a formatter writes timestamps. -/
def IsEncodable (formatter : Formatter) : Prop :=
  formatter.encodingError? = none

instance (formatter : Formatter) : Decidable formatter.IsEncodable :=
  inferInstanceAs (Decidable (formatter.encodingError? = none))

/-- Write a timestamp. Only a date pattern can do without an offset, and it must have a written
form that can be encoded. -/
def format (stamp : Timestamp) : Formatter → Except FormatError Text
  | .standard =>
      match stamp.offset with
      | none => .error (.withoutOffset stamp)
      | some offset => .ok (writeStandard ⟨stamp.date, stamp.time, offset⟩)
  | .custom pattern =>
      match pattern.print.encodingError? with
      | some error => .error (.encoding error)
      | none => .ok (pattern.write stamp)

/-- The pieces of a format. -/
def pieces : Formatter → List Piece
  | .standard => standardPieces
  | .custom pattern => pattern.pieces

/-- The fields of a timestamp written at the start of a text. -/
def match? (formatter : Formatter) (text : Text) : Option Fields :=
  (readPieces formatter.pieces text).map (·.1)

/-- What comes of writing a zoned timestamp. -/
theorem format_toTimestamp (formatter : Formatter) (stamp : ZonedTimestamp) :
    formatter.format stamp.toTimestamp =
      match formatter.encodingError? with
      | some error => .error (.encoding error)
      | none => .ok (formatter.write stamp) := by
  cases formatter <;> rfl

/-- A formatter that cannot write refuses every timestamp. -/
theorem format_of_encodingError {formatter : Formatter} {error : Text.EncodingError}
    (found : formatter.encodingError? = some error) (stamp : Timestamp) :
    formatter.format stamp = .error (.encoding error) := by
  cases formatter with
  | standard => cases found
  | custom pattern =>
      rw [encodingError?] at found
      rw [format, found]

/-- A zoned timestamp is written exactly if nothing stands in the way. -/
theorem format_eq_ok_iff {formatter : Formatter} {stamp : ZonedTimestamp} {text : Text} :
    formatter.format stamp.toTimestamp = .ok text ↔
      formatter.IsEncodable ∧ formatter.write stamp = text := by
  rw [format_toTimestamp, IsEncodable]
  cases formatter.encodingError? <;> simp

/-- What holds of what is written for a zoned timestamp holds of it exactly if it is written at
all. -/
theorem exists_format_iff {formatter : Formatter} {stamp : ZonedTimestamp}
    {holds : Text → Prop} :
    (∃ written, formatter.format stamp.toTimestamp = .ok written ∧ holds written) ↔
      formatter.IsEncodable ∧ holds (formatter.write stamp) := by
  constructor
  · rintro ⟨written, formatted, known⟩
    obtain ⟨encodable, rfl⟩ := format_eq_ok_iff.1 formatted
    exact ⟨encodable, known⟩
  · rintro ⟨encodable, known⟩
    exact ⟨_, format_eq_ok_iff.2 ⟨encodable, rfl⟩, known⟩

end Formatter

namespace Pattern

/-- The written form of an item holds no surrogate but its literal. -/
theorem isEncodable_printItem_iff {item : Item} :
    (printItem item).IsEncodable ↔ ∀ c, item = .literal c → c.isSurrogate = false := by
  cases item with
  | literal c =>
      by_cases percent : c = '%'
      · simp [printItem, Text.IsEncodable, percent]
      · simp [printItem, Text.IsEncodable, percent]
  | directive kind =>
      have letters : (printItem (.directive kind)).IsEncodable := by cases kind <;> decide
      simp [letters]

/-- A pattern can be written by exactly if no literal of it is a surrogate. -/
theorem isEncodable_iff {pattern : Pattern} :
    (Formatter.custom pattern).IsEncodable ↔
      ∀ c, .literal c ∈ pattern.items → c.isSurrogate = false := by
  rw [Formatter.IsEncodable, Formatter.encodingError?, Text.encodingError?_eq_none_iff]
  constructor
  · intro encodable c member
    exact isEncodable_printItem_iff.1
      (fun other inside => encodable other (List.mem_flatMap_of_mem member inside)) c rfl
  · intro literals other printed
    obtain ⟨item, member, inside⟩ := List.mem_flatMap.1 printed
    exact isEncodable_printItem_iff.2 (fun c same => literals c (same ▸ member)) other inside

end Pattern
end RecordingName.DateFormat
