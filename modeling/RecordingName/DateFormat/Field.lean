import RecordingName.Text.Digit

/-!
# Fields of a written timestamp

Reading a timestamp first yields the texts of its fields. A field that a format
holds twice has the text of its later occurrence; `find?_append` says so.
-/

namespace RecordingName.DateFormat

/-- The parts of a timestamp that a format can hold. -/
inductive Field where
  | year
  | shortYear
  | month
  | monthName
  | day
  | dayOfYear
  | hour
  | hour12
  | half
  | minute
  | second
  | fraction
  | offset
  deriving DecidableEq, Repr

/-- The texts read for fields, in the order in which they were read. -/
abbrev Fields := List (Field × Text)

/-- The text of a field: the last one that was read for it. -/
def Fields.find? (fields : Fields) (field : Field) : Option Text :=
  fields.foldl (fun found entry => if entry.1 = field then some entry.2 else found) none

/-- What has been found so far stands only where the fields say nothing. -/
theorem Fields.foldl_find (found : Option Text) (fields : Fields) (field : Field) :
    fields.foldl (fun found entry => if entry.1 = field then some entry.2 else found) found =
      (fields.foldl (fun found entry => if entry.1 = field then some entry.2 else found) none).or
        found := by
  induction fields generalizing found with
  | nil => simp
  | cons entry rest ih =>
      rw [List.foldl_cons, List.foldl_cons, ih (if entry.1 = field then some entry.2 else found),
        ih (if entry.1 = field then some entry.2 else none)]
      by_cases same : entry.1 = field <;> simp [same]

/-- What is read later wins over what was read before. -/
theorem Fields.find?_append (first second : Fields) (field : Field) :
    Fields.find? (first ++ second) field =
      (Fields.find? second field).or (Fields.find? first field) := by
  rw [Fields.find?, List.foldl_append, foldl_find]
  rfl

end RecordingName.DateFormat
