import RecordingName.Proofs.DateFormat.Telling

/-!
# Digits that name no time

A match has the fields of its format: `Formatter.find?_isSome_iff`. But their digits may be out of
range, and a field that determines nothing is passed over like one that is missing. So a timestamp
that is read has no offset exactly if the format lacks the hour or the offset, or the digits that
were read for them name none: `offset_of_read?_eq_none_iff`.
-/

namespace RecordingName.DateFormat

section Keys

/-- The field that a piece is always read into. A fraction may be missing. -/
def Piece.field? : Piece → Option Field
  | .digits field _ _ => some field
  | .word field _ => field
  | .offset _ => some .offset
  | _ => none

/-- A directive fills the field that its piece of the matcher captures. -/
theorem Directive.field?_eq (kind : Directive) : kind.field? = kind.piece.field? := by
  cases kind <;> rfl

variable {piece : Piece} {pieces : List Piece} {text : Text} {fields : Fields} {field : Field}

/-- A piece is read into its field, and a fraction may be read into its own. -/
theorem keys_of_mem_readings {reading : Fields × Text} (member : reading ∈ piece.readings text) :
    reading.1.map (·.1) = piece.field?.toList ∨
      piece.field? = none ∧ reading.1.map (·.1) = [.fraction] := by
  cases Piece.reads_of_mem_readings member with
  | literal | digits | offset | zoneName | noFraction => exact .inl rfl
  | word field => cases field <;> exact .inl rfl
  | fraction => exact .inr ⟨rfl, rfl⟩

/-- A sequence of pieces is read into their fields, the fraction apart. -/
theorem mem_keys_of_readPieces {result : Fields × Text} (other : field ≠ .fraction)
    (read : readPieces pieces text = some result) :
    field ∈ result.1.map (·.1) ↔ ∃ piece ∈ pieces, piece.field? = some field := by
  -- Whichever reading of the first piece the search settles on, its keys are those of the piece.
  induction pieces generalizing text result with
  | nil =>
      cases read
      simp
  | cons piece others ih =>
      obtain ⟨reading, member, carried⟩ := List.exists_of_findSome?_eq_some read
      obtain ⟨behind, read_behind, rfl⟩ := Option.map_eq_some_iff.1 carried
      simp only [List.map_append, List.mem_append, ih read_behind, List.mem_cons,
        exists_eq_or_imp]
      refine or_congr_left ?_
      rcases keys_of_mem_readings member with own | ⟨none_own, fraction⟩
      · rw [own, Option.mem_toList]
      · rw [fraction, none_own, List.mem_singleton]
        exact iff_of_false other (by simp)

/-- A text is found for the fields among the keys, and for no others. -/
theorem Fields.find?_isSome_iff :
    (fields.find? field).isSome ↔ field ∈ fields.map (·.1) := by
  rw [Option.isSome_iff_exists, List.mem_map]
  constructor
  · rintro ⟨text, found⟩
    exact ⟨_, Fields.mem_of_find? found, rfl⟩
  · rintro ⟨⟨_, text⟩, member, rfl⟩
    exact Fields.exists_find?_of_mem member

/-- A format that tells the hour. -/
def Formatter.TellsHour : Formatter → Prop
  | .standard => True
  | .custom pattern => pattern.TellsHour

/-- A format that tells the offset. -/
def Formatter.TellsOffset : Formatter → Prop
  | .standard => True
  | .custom pattern => .directive .offset ∈ pattern.items

/-- The fields of a match are those of the pieces of the format. -/
theorem Formatter.find?_isSome_iff {formatter : Formatter} (other : field ≠ .fraction)
    (matched : formatter.match? text = some fields) :
    (fields.find? field).isSome ↔ ∃ piece ∈ formatter.pieces, piece.field? = some field := by
  obtain ⟨result, read, rfl⟩ := Option.map_eq_some_iff.1 matched
  rw [Fields.find?_isSome_iff]
  exact mem_keys_of_readPieces other read

/-- The field of a directive is in every match exactly if the pattern has the directive. -/
theorem Pattern.find?_isSome_iff {pattern : Pattern} (kind : Directive)
    (own : kind.field? = some field) (other : field ≠ .fraction) (unnamed : field ≠ .monthName)
    (matched : (Formatter.custom pattern).match? text = some fields) :
    (fields.find? field).isSome ↔ .directive kind ∈ pattern.items := by
  rw [Formatter.find?_isSome_iff other matched]
  constructor
  · rintro ⟨piece, member, read⟩
    obtain ⟨item, listed, rfl⟩ := List.mem_map.1 member
    cases item with
    | literal c => cases read
    | directive same =>
        rw [itemPiece, ← Directive.field?_eq] at read
        rw [Directive.eq_ofField own unnamed, ← Directive.eq_ofField read unnamed]
        exact listed
  · intro member
    exact ⟨kind.piece, List.mem_map_of_mem (f := itemPiece) member, kind.field?_eq ▸ own⟩

/-- A match has an hour exactly if the format tells it. -/
theorem Formatter.tellsHour_iff {formatter : Formatter}
    (matched : formatter.match? text = some fields) :
    formatter.TellsHour ↔ (fields.find? .hour).isSome ∨
      (fields.find? .hour12).isSome ∧ (fields.find? .half).isSome := by
  cases formatter with
  | standard =>
      refine iff_of_true trivial (.inl ?_)
      exact (find?_isSome_iff (by decide) matched).2 ⟨.digits .hour 2 2, by decide, rfl⟩
  | custom pattern =>
      rw [Pattern.find?_isSome_iff .hour rfl (by decide) (by decide) matched,
        Pattern.find?_isSome_iff .hour12 rfl (by decide) (by decide) matched,
        Pattern.find?_isSome_iff .half rfl (by decide) (by decide) matched]
      exact Iff.rfl

/-- A match has an offset exactly if the format tells it. -/
theorem Formatter.tellsOffset_iff {formatter : Formatter}
    (matched : formatter.match? text = some fields) :
    formatter.TellsOffset ↔ (fields.find? .offset).isSome := by
  cases formatter with
  | standard =>
      refine iff_of_true trivial ?_
      exact (find?_isSome_iff (by decide) matched).2 ⟨.offset false, by decide, rfl⟩
  | custom pattern =>
      rw [Pattern.find?_isSome_iff .offset rfl (by decide) (by decide) matched]
      exact Iff.rfl

end Keys

section Faults

/-- A fraction stands for less than a second. -/
theorem microsecondsOf_lt (digits : Text) : microsecondsOf digits < 1000000 := by
  have bound := Text.toNumber_lt (digits.take 6 ++ List.replicate (6 - digits.length) (.scalar '0'))
  have six :
      (digits.take 6 ++ List.replicate (6 - digits.length) (CodePoint.scalar '0')).length = 6 := by
    rw [List.length_append, List.length_take, List.length_replicate]
    omega
  rwa [six] at bound

/-- There is no time of day exactly if a number is out of range. -/
theorem timeOf?_eq_none_iff {hour minute second microsecond : Nat} (fits : microsecond < 1000000) :
    timeOf? hour minute second microsecond = none ↔ 24 ≤ hour ∨ 60 ≤ minute ∨ 60 ≤ second := by
  have in_range : TimeOfDay.Valid ⟨hour, minute, second, microsecond⟩ ↔
      hour < 24 ∧ minute < 60 ∧ second < 60 ∧ microsecond < 1000000 := Iff.rfl
  rw [timeOf?]
  split
  next valid =>
    have fit := in_range.1 valid
    exact iff_of_false (Option.some_ne_none _) (by omega)
  next invalid =>
    have beyond := mt in_range.2 invalid
    exact iff_of_true rfl (by omega)

namespace Fields

variable {fields : Fields} {stamp : Timestamp}

/-- Digits were read for a time of day that there is not: the hour, the minute or the second is out
of range. -/
def NamesNoTime (fields : Fields) : Prop :=
  (∃ hour, fields.number? .hour = some hour ∧ 24 ≤ hour) ∨
  (fields.number? .hour = none ∧
    ∃ hour, fields.number? .hour12 = some hour ∧ ¬ (1 ≤ hour ∧ hour ≤ 12)) ∨
  60 ≤ (fields.number? .minute).getD 0 ∨ 60 ≤ (fields.number? .second).getD 0

/-- Digits were read for an offset that there is not: it comes to a day or more. -/
def NamesNoOffset (fields : Fields) : Prop :=
  ∃ text, fields.find? .offset = some text ∧ 86400 ≤ (offsetSeconds text).natAbs

/-- Without an hour there is no time of day. -/
theorem time?_eq_none_of_hour (silent : fields.hour? = none) : fields.time? = none := by
  rw [time?, silent]
  rfl

/-- With an hour, there is no time of day exactly if a number is out of range. -/
theorem time?_eq_none_iff_of_hour {hour : Nat} (told : fields.hour? = some hour) :
    fields.time? = none ↔
      24 ≤ hour ∨ 60 ≤ (fields.number? .minute).getD 0 ∨ 60 ≤ (fields.number? .second).getD 0 := by
  rw [time?, told, Option.bind_some]
  exact timeOf?_eq_none_iff (microsecondsOf_lt _)

/-- If an hour has been read, there is no time of day exactly if the digits name none. -/
theorem time?_eq_none_iff (read : (fields.find? .hour).isSome ∨
      (fields.find? .hour12).isSome ∧ (fields.find? .half).isSome) :
    fields.time? = none ↔ fields.NamesNoTime := by
  -- The hour of the day comes first: if there is one, the hour in its half is not looked at.
  rw [NamesNoTime]
  cases whole : fields.number? .hour with
  | some hour =>
      have told : fields.hour? = some hour := by rw [hour?, whole]
      rw [time?_eq_none_iff_of_hour told]
      simp
  | none =>
      have unread : fields.find? .hour = none := Option.map_eq_none_iff.1 whole
      obtain ⟨halved, half_read⟩ := read.resolve_left (by simp [unread])
      obtain ⟨digits, found⟩ := Option.isSome_iff_exists.1 halved
      obtain ⟨half, half_found⟩ := Option.isSome_iff_exists.1 half_read
      have number : fields.number? .hour12 = some (Text.toNumber digits) := by
        rw [number?, found, Option.map_some]
      have told : fields.hour? = if 1 ≤ Text.toNumber digits ∧ Text.toNumber digits ≤ 12 then
          some (Text.toNumber digits % 12 +
            if lowerWord half = [CodePoint.scalar 'p', 'm'] then 12 else 0)
          else none := by
        simp only [hour?, whole, number, half_found, Option.bind_some]
      by_cases in_half : 1 ≤ Text.toNumber digits ∧ Text.toNumber digits ≤ 12
      · have early : Text.toNumber digits % 12 +
            (if lowerWord half = [CodePoint.scalar 'p', 'm'] then 12 else 0) < 24 := by
          split <;> omega
        rw [if_pos in_half] at told
        rw [time?_eq_none_iff_of_hour told]
        simp [number, in_half.1, Nat.not_lt.2 in_half.2, Nat.not_le.2 early]
      · rw [if_neg in_half] at told
        exact iff_of_true (time?_eq_none_of_hour told) (.inr (.inl ⟨rfl, _, number, in_half⟩))

/-- If an offset has been read, there is none exactly if the digits name none. -/
theorem offset?_eq_none_iff (read : (fields.find? .offset).isSome) :
    fields.offset? = none ↔ fields.NamesNoOffset := by
  obtain ⟨text, found⟩ := Option.isSome_iff_exists.1 read
  simp only [offset?, NamesNoOffset, found, Option.bind_some, Option.some.injEq,
    exists_eq_left']
  split
  next zulu =>
    have none_off : offsetSeconds ['Z'] = 0 := by decide
    rw [zulu, none_off]
    exact iff_of_false (Option.some_ne_none _) (by decide)
  · rw [Offset.fixed?]
    split
    next inside => exact iff_of_false (Option.some_ne_none _) (by omega)
    next outside => exact iff_of_true rfl (by omega)

/-- What is read without an hour has no time of day. -/
theorem time?_eq_none_of_unread (unread : ¬ ((fields.find? .hour).isSome ∨
      (fields.find? .hour12).isSome ∧ (fields.find? .half).isSome)) :
    fields.time? = none := by
  simp only [not_or, not_and_or, Option.not_isSome_iff_eq_none] at unread
  obtain ⟨whole, half⟩ := unread
  refine time?_eq_none_of_hour ?_
  simp only [hour?, number?, whole, Option.map_none]
  rcases half with number | half
  · rw [number]
    rfl
  · rw [half]
    cases (fields.find? .hour12).map Text.toNumber <;> rfl

/-- A timestamp has no offset exactly if the fields determine no time of day or no offset. -/
theorem offset_of_timestamp?_eq_none_iff (told : fields.timestamp? = some stamp) :
    stamp.offset = none ↔ fields.time? = none ∨ fields.offset? = none := by
  cases date : fields.date? with
  | none => simp [timestamp?, asZoned?, asLocal?, asStartOfDay?, date] at told
  | some day =>
      cases time : fields.time? with
      | none =>
          simp only [timestamp?, asZoned?, asLocal?, asStartOfDay?, date, time] at told
          cases told
          simp
      | some clock =>
          cases offset : fields.offset? with
          | none =>
              simp only [timestamp?, asZoned?, asLocal?, asStartOfDay?, date, time, offset] at told
              cases told
              simp
          | some known =>
              simp only [timestamp?, asZoned?, date, time, offset] at told
              cases told
              simp

end Fields

/-- A timestamp that a formatter reads, wherever it stands, has no offset exactly if the format
lacks the hour or the offset, or if digits were read that name no time of day or no offset. -/
theorem offset_of_read?_eq_none_iff {formatter : Formatter} {text : Text} {position : Nat}
    {stamp : Timestamp} (read : formatter.read? (text.drop position) = some stamp) :
    stamp.offset = none ↔ ¬ formatter.TellsHour ∨ ¬ formatter.TellsOffset ∨
      ∃ fields, formatter.match? (text.drop position) = some fields ∧
        (fields.NamesNoTime ∨ fields.NamesNoOffset) := by
  obtain ⟨fields, matched, told⟩ := Option.bind_eq_some_iff.1 read
  rw [Fields.offset_of_timestamp?_eq_none_iff told]
  have hour := Formatter.tellsHour_iff matched
  have offset := Formatter.tellsOffset_iff matched
  by_cases timed : formatter.TellsHour
  · rw [Fields.time?_eq_none_iff (hour.1 timed)]
    by_cases zoned : formatter.TellsOffset
    · rw [Fields.offset?_eq_none_iff (offset.1 zoned)]
      simp [timed, zoned, matched]
    · have unread : fields.find? .offset = none :=
        Option.not_isSome_iff_eq_none.1 fun found => zoned (offset.2 found)
      have silent : fields.offset? = none := by
        rw [Fields.offset?, unread]
        rfl
      exact iff_of_true (.inr silent) (.inr (.inl zoned))
  · have silent := Fields.time?_eq_none_of_unread fun found => timed (hour.2 found)
    exact iff_of_true (.inl silent) (.inl timed)

/-- A text in the standard format whose hour is the twenty-fourth. -/
def lateHour : Text := "20220429_240000+0000".text

/-- The standard format reads the hour, and passes over it. -/
theorem offset_of_read?_eq_none_iff_late :
    Formatter.standard.read? (("rec".text ++ lateHour).drop 3) =
      some ⟨⟨2022, 4, 29⟩, .midnight, none⟩ ∧
    ∃ fields, Formatter.standard.match? (("rec".text ++ lateHour).drop 3) = some fields ∧
      (fields.NamesNoTime ∨ fields.NamesNoOffset) := by
  have read : Formatter.standard.read? (("rec".text ++ lateHour).drop 3) =
      some ⟨⟨2022, 4, 29⟩, .midnight, none⟩ := by decide
  rcases (offset_of_read?_eq_none_iff read).1 rfl with untimed | unzoned | faulty
  · exact absurd trivial untimed
  · exact absurd trivial unzoned
  · exact ⟨read, faulty⟩

/-- An hour that there is not is read as midnight, and with an offset that there is not the time is
read without one, although the standard format tells both. -/
theorem late_hour_read_as_midnight :
    Formatter.standard.TellsHour ∧ Formatter.standard.TellsOffset ∧
    Formatter.standard.read? lateHour = some ⟨⟨2022, 4, 29⟩, .midnight, none⟩ ∧
    Formatter.standard.read? "20220429_180249+2400".text =
      some ⟨⟨2022, 4, 29⟩, ⟨18, 2, 49, 0⟩, none⟩ ∧
    ¬ ∀ formatter : Formatter, formatter.TellsHour → formatter.TellsOffset →
      ∀ (text : Text) position stamp, formatter.read? (text.drop position) = some stamp →
        stamp.offset ≠ none := by
  have late : Formatter.standard.read? lateHour = some ⟨⟨2022, 4, 29⟩, .midnight, none⟩ := by
    decide
  refine ⟨trivial, trivial, late, by decide, fun zoned => ?_⟩
  exact zoned .standard trivial trivial lateHour 0 _ late rfl

end Faults

end RecordingName.DateFormat
