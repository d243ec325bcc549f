import RecordingName.Proofs.DateFormat.Directives

/-!
# What a date pattern tells

What a pattern has written is read into a field for each of its directives: `Pattern.mem_fieldsOf`.
If there is a year and a day among them, the fields determine the date; an hour makes it a time of
day, and an offset an instant: `Pattern.timestamp?_fieldsOf`.
-/

namespace RecordingName.DateFormat

namespace Fields

variable {fields : Fields} {field : Field} {text : Text}

theorem find?_cons (entry : Field × Text) (rest : Fields) (field : Field) :
    Fields.find? (entry :: rest) field =
      (Fields.find? rest field).or (if entry.1 = field then some entry.2 else none) :=
  Fields.find?_append [entry] rest field

/-- The text that is found for a field has been read for it. -/
theorem mem_of_find? (found : fields.find? field = some text) : (field, text) ∈ fields := by
  induction fields with
  | nil => cases found
  | cons entry rest ih =>
      rw [find?_cons] at found
      rcases Option.or_eq_some_iff.1 found with later | ⟨_, here⟩
      · exact List.mem_cons_of_mem _ (ih later)
      · split at here
        next same =>
          cases here
          rw [← same]
          exact List.mem_cons_self ..
        · cases here

/-- A text is found for every field for which one has been read. -/
theorem exists_find?_of_mem (member : (field, text) ∈ fields) :
    ∃ found, fields.find? field = some found := by
  induction fields with
  | nil => cases member
  | cons entry rest ih =>
      rw [find?_cons]
      rcases List.mem_cons.1 member with rfl | later
      · rw [if_pos rfl]
        cases Fields.find? rest field with
        | none => exact ⟨_, rfl⟩
        | some found => exact ⟨_, rfl⟩
      · obtain ⟨found, shape⟩ := ih later
        rw [shape]
        exact ⟨found, rfl⟩

end Fields

namespace Directive

/-- The directive that a field is read from; the name of a month has two. -/
def ofField : Field → Directive
  | .year => .year
  | .shortYear => .shortYear
  | .month => .month
  | .monthName => .monthName
  | .day => .day
  | .dayOfYear => .dayOfYear
  | .hour => .hour
  | .hour12 => .hour12
  | .half => .half
  | .minute => .minute
  | .second => .second
  | .fraction => .microsecond
  | .offset => .offset

/-- Every field but the month by name is filled by one directive. -/
theorem eq_ofField {kind : Directive} {field : Field} (read : kind.field? = some field)
    (other : field ≠ .monthName) : kind = ofField field := by
  cases kind <;> cases read <;> first | rfl | exact absurd rfl other

end Directive

namespace Pattern

/-- The fields that an item is read into from what it writes. -/
def itemFields (stamp : Timestamp) : Item → Fields
  | .literal _ => []
  | .directive kind => kind.fieldsOf stamp

/-- The fields that a pattern is read into from what it writes. -/
def fieldsOf (pattern : Pattern) (stamp : Timestamp) : Fields :=
  pattern.items.flatMap (itemFields stamp)

/-- A pattern that tells the date: the year, in full or by its last two digits, and the day, by its
number in the year or in a month. -/
structure TellsDate (pattern : Pattern) : Prop where
  year : .directive .year ∈ pattern.items ∨ .directive .shortYear ∈ pattern.items
  day : .directive .dayOfYear ∈ pattern.items ∨ .directive .day ∈ pattern.items ∧
    (.directive .month ∈ pattern.items ∨ .directive .monthAbbreviation ∈ pattern.items ∨
      .directive .monthName ∈ pattern.items)

/-- A pattern that tells the hour: that of the day, or that of its half and which half it is. -/
def TellsHour (pattern : Pattern) : Prop :=
  .directive .hour ∈ pattern.items ∨
    .directive .hour12 ∈ pattern.items ∧ .directive .half ∈ pattern.items

instance (pattern : Pattern) : Decidable pattern.TellsHour :=
  inferInstanceAs (Decidable (_ ∨ _ ∧ _))

/-- Whether the year of a date can be told by a pattern: it has four digits, and two of them stand
for it only from 1969 to 2068. -/
structure YearInReach (pattern : Pattern) (date : Date) : Prop where
  four : 1000 ≤ date.year
  short : .directive .year ∉ pattern.items → 1969 ≤ date.year ∧ date.year ≤ 2068

/-- A number that a pattern tells, where one without a directive counts as zero. -/
def part (pattern : Pattern) (kind : Directive) (number : Nat) : Nat :=
  if .directive kind ∈ pattern.items then number else 0

/-- What a pattern with a date conveys of a timestamp: the start of the day, or, if it tells the
hour, the parts of the time that it has, with the offset if it has that. The abbreviation of the
offset is forgotten. -/
def conveyed (pattern : Pattern) (stamp : ZonedTimestamp) : Timestamp :=
  if pattern.TellsHour then
    { date := stamp.date
      time :=
        { hour := stamp.time.hour
          minute := pattern.part .minute stamp.time.minute
          second := pattern.part .second stamp.time.second
          microsecond := pattern.part .microsecond stamp.time.microsecond }
      offset :=
        if .directive .offset ∈ pattern.items then some (plainOffset stamp.offset) else none }
  else ⟨stamp.date, .midnight, none⟩

variable {pattern : Pattern} {stamp : ZonedTimestamp}

/-- The fields of a pattern are what its directives write. -/
theorem mem_fieldsOf {stamp : Timestamp} {field : Field} {text : Text} :
    (field, text) ∈ pattern.fieldsOf stamp ↔ ∃ kind, .directive kind ∈ pattern.items ∧
      kind.field? = some field ∧ text = kind.write stamp := by
  rw [fieldsOf, List.mem_flatMap]
  constructor
  · rintro ⟨item, member, read⟩
    cases item with
    | literal c => cases read
    | directive kind =>
        obtain ⟨known, found, same⟩ := List.mem_map.1 read
        cases same
        exact ⟨kind, member, Option.mem_toList.1 found, rfl⟩
  · rintro ⟨kind, member, read, rfl⟩
    exact ⟨.directive kind, member, List.mem_map.2 ⟨field, Option.mem_toList.2 read, rfl⟩⟩

/-- The text of a field is what its directive has written, if there is one. -/
theorem find?_fieldsOf (pattern : Pattern) (stamp : Timestamp) (kind : Directive) {field : Field}
    (read : kind.field? = some field) (other : field ≠ .monthName) :
    (pattern.fieldsOf stamp).find? field =
      if .directive kind ∈ pattern.items then some (kind.write stamp) else none := by
  split
  next member =>
    obtain ⟨text, found⟩ := Fields.exists_find?_of_mem (mem_fieldsOf.2 ⟨kind, member, read, rfl⟩)
    obtain ⟨same, _, same_read, rfl⟩ := mem_fieldsOf.1 (Fields.mem_of_find? found)
    rw [found, Directive.eq_ofField same_read other, ← Directive.eq_ofField read other]
  next absent =>
    cases found : (pattern.fieldsOf stamp).find? field with
    | none => rfl
    | some text =>
        obtain ⟨same, member, same_read, _⟩ := mem_fieldsOf.1 (Fields.mem_of_find? found)
        rw [Directive.eq_ofField same_read other, ← Directive.eq_ofField read other] at member
        exact absurd member absent

/-- The number in a field is the one that its directive has written, if there is one. -/
theorem number?_fieldsOf (pattern : Pattern) {stamp : Timestamp} (kind : Directive) {field : Field}
    {number : Nat} (read : kind.field? = some field) (other : field ≠ .monthName)
    (written : Text.toNumber (kind.write stamp) = number) :
    (pattern.fieldsOf stamp).number? field =
      if .directive kind ∈ pattern.items then some number else none := by
  rw [Fields.number?, find?_fieldsOf pattern stamp kind read other]
  split
  · exact congrArg some written
  · rfl

section Date

/-- The year that a pattern tells; one that it tells by two digits must be within their reach. -/
theorem year?_fieldsOf (tells : pattern.TellsDate) (reaches : pattern.YearInReach stamp.date) :
    (pattern.fieldsOf stamp.toTimestamp).year? = some stamp.date.year.toNat := by
  have full := number?_fieldsOf pattern .year rfl (by decide)
    (Text.toNumber_decimal stamp.toTimestamp.date.year.toNat)
  have short := number?_fieldsOf pattern .shortYear rfl (by decide)
    (Text.toNumber_padded 2 (stamp.toTimestamp.date.year % 100).toNat)
  rw [Fields.year?, full, short]
  by_cases complete : .directive .year ∈ pattern.items
  · rw [if_pos complete]
    rfl
  · obtain ⟨least, most⟩ := reaches.short complete
    rw [if_neg complete, if_pos (tells.year.resolve_left complete)]
    simp only [ZonedTimestamp.toTimestamp, Option.map_some, Option.some.injEq]
    split <;> omega

/-- A name of a month, in full or abbreviated, has the number of the month. -/
theorem monthNumber?_write (valid : stamp.Valid) {kind : Directive}
    (named : kind.field? = some .monthName) :
    monthNumber? (kind.write stamp.toTimestamp) = some stamp.date.month := by
  obtain ⟨_, ⟨month_pos, month_le, _, _⟩, _⟩ := valid
  have known : ∀ index < 12, monthNumber? (monthNames.getD index []) = some (index + 1) ∧
      monthNumber? (abbreviate (monthNames.getD index [])) = some (index + 1) := by decide
  obtain ⟨full, short⟩ := known (stamp.date.month - 1) (by omega)
  rw [Nat.sub_add_cancel month_pos] at full short
  cases kind <;> cases named
  · exact short
  · exact full

/-- A month is told by its number or, without one, by its name. -/
theorem month_fieldsOf (valid : stamp.Valid)
    (tells : .directive .month ∈ pattern.items ∨ .directive .monthAbbreviation ∈ pattern.items ∨
      .directive .monthName ∈ pattern.items) :
    (pattern.fieldsOf stamp.toTimestamp).number? .month = some stamp.date.month ∨
      (pattern.fieldsOf stamp.toTimestamp).number? .month = none ∧
        ((pattern.fieldsOf stamp.toTimestamp).find? .monthName).bind monthNumber? =
          some stamp.date.month := by
  have number := number?_fieldsOf pattern .month rfl (by decide)
    (Text.toNumber_padded 2 stamp.toTimestamp.date.month)
  by_cases numbered : .directive .month ∈ pattern.items
  · rw [if_pos numbered] at number
    exact .inl number
  · obtain ⟨kind, member, named⟩ : ∃ kind, .directive kind ∈ pattern.items ∧
        Directive.field? kind = some .monthName := by
      rcases tells.resolve_left numbered with short | full
      · exact ⟨_, short, rfl⟩
      · exact ⟨_, full, rfl⟩
    obtain ⟨text, found⟩ := Fields.exists_find?_of_mem (mem_fieldsOf.2 ⟨kind, member, named, rfl⟩)
    obtain ⟨_, _, read, rfl⟩ := mem_fieldsOf.1 (Fields.mem_of_find? found)
    rw [if_neg numbered] at number
    rw [number, found]
    exact .inr ⟨rfl, monthNumber?_write valid read⟩

/-- The date that a pattern tells, by the number of the day in the year if it has one. -/
theorem date?_fieldsOf (tells : pattern.TellsDate) (valid : stamp.Valid)
    (reaches : pattern.YearInReach stamp.date) :
    (pattern.fieldsOf stamp.toTimestamp).date? = some stamp.date := by
  obtain ⟨same_year, _⟩ := valid.bounds
  have ordinal := number?_fieldsOf pattern .dayOfYear rfl (by decide)
    (Text.toNumber_padded 3 stamp.toTimestamp.date.dayOfYear)
  have day := number?_fieldsOf pattern .day rfl (by decide)
    (Text.toNumber_padded 2 stamp.toTimestamp.date.day)
  rw [Fields.date?, year?_fieldsOf tells reaches, Option.bind_some, ordinal, day]
  by_cases numbered : .directive .dayOfYear ∈ pattern.items
  · obtain ⟨day_pos, day_le⟩ := Date.dayOfYear_le valid.date
    have exact_day := Date.ofYearDay_dayOfYear valid.date
    simp only [if_pos numbered, ZonedTimestamp.toTimestamp, dateOfYearDay?, same_year, exact_day]
    exact if_pos ⟨valid.supported, day_pos, day_le⟩
  · obtain ⟨daily, monthly⟩ := tells.day.resolve_left numbered
    have exists_day : dateOf? stamp.date.year.toNat stamp.date.month stamp.date.day =
        some stamp.date := by
      rw [dateOf?, same_year]
      exact if_pos ⟨valid.supported, valid.date⟩
    rw [if_neg numbered, if_pos daily]
    rcases month_fieldsOf valid monthly with number | ⟨unnumbered, name⟩
    · rw [number]
      exact exists_day
    · rw [unnumbered, name]
      exact exists_day

end Date

section Time

/-- Six digits of a fraction are the microseconds that they were written for. -/
theorem microsecondsOf_padded {microsecond : Nat} (fits : microsecond < 1000000) :
    microsecondsOf (Text.padded 6 microsecond) = microsecond := by
  have width : (Text.padded 6 microsecond).length = 6 := Text.length_padded (by decide) fits
  rw [microsecondsOf, width, List.take_of_length_le (Nat.le_of_eq width), Nat.sub_self,
    List.replicate_zero, List.append_nil, Text.toNumber_padded]

/-- An hour of the day is told by its number in its half and by the half. -/
theorem hour_of_half {hour : Nat} (fits : hour < 24) :
    ((hour + 11) % 12 + 1) % 12 +
        (if lowerWord (if hour < 12 then ['A', 'M'] else ['P', 'M']) =
            [CodePoint.scalar 'p', 'm'] then 12 else 0) =
      hour := by
  by_cases morning : hour < 12
  · have word : lowerWord ['A', 'M'] ≠ [CodePoint.scalar 'p', 'm'] := by decide
    rw [if_pos morning, if_neg word]
    omega
  · have word : lowerWord ['P', 'M'] = [CodePoint.scalar 'p', 'm'] := by decide
    rw [if_neg morning, if_pos word]
    omega

/-- The hour that a pattern tells, if it tells any. -/
theorem hour?_fieldsOf (pattern : Pattern) (valid : stamp.Valid) :
    (pattern.fieldsOf stamp.toTimestamp).hour? =
      if pattern.TellsHour then some stamp.time.hour else none := by
  obtain ⟨hour_fits, _⟩ := valid.time
  have hour := number?_fieldsOf pattern .hour rfl (by decide)
    (Text.toNumber_padded 2 stamp.toTimestamp.time.hour)
  have hour12 := number?_fieldsOf pattern .hour12 rfl (by decide)
    (Text.toNumber_padded 2 ((stamp.toTimestamp.time.hour + 11) % 12 + 1))
  have half := find?_fieldsOf pattern stamp.toTimestamp .half rfl (by decide)
  rw [Fields.hour?, hour, hour12, half]
  by_cases whole : .directive .hour ∈ pattern.items
  · have tells : pattern.TellsHour := .inl whole
    rw [if_pos whole, if_pos tells]
    rfl
  · rw [if_neg whole]
    by_cases halved : .directive .hour12 ∈ pattern.items ∧ .directive .half ∈ pattern.items
    · have tells : pattern.TellsHour := .inr halved
      have in_half : 1 ≤ (stamp.time.hour + 11) % 12 + 1 ∧
          (stamp.time.hour + 11) % 12 + 1 ≤ 12 := by omega
      rw [if_pos halved.1, if_pos halved.2, if_pos tells]
      simp only [Option.bind_some, ZonedTimestamp.toTimestamp, Directive.write, if_pos in_half]
      exact congrArg some (hour_of_half hour_fits)
    · have silent : ¬ pattern.TellsHour := fun tells => halved (tells.resolve_left whole)
      rw [if_neg silent]
      by_cases twelve : .directive .hour12 ∈ pattern.items
      · rw [if_pos twelve, if_neg fun half => halved ⟨twelve, half⟩]
        rfl
      · rw [if_neg twelve]
        rfl

/-- A number that is missing counts as zero. -/
theorem getD_number?_fieldsOf (pattern : Pattern) {stamp : Timestamp} (kind : Directive)
    {field : Field} {number : Nat} (read : kind.field? = some field) (other : field ≠ .monthName)
    (written : Text.toNumber (kind.write stamp) = number) :
    ((pattern.fieldsOf stamp).number? field).getD 0 = pattern.part kind number := by
  rw [number?_fieldsOf pattern kind read other written, part]
  split <;> rfl

/-- A part that the pattern does not tell is taken as zero, so parts keep their bounds. -/
theorem part_lt (pattern : Pattern) (kind : Directive) {number bound : Nat}
    (fits : number < bound) :
    pattern.part kind number < bound := by
  rw [part]
  split <;> omega

/-- The microseconds that a pattern tells. -/
theorem microsecondsOf_fieldsOf (pattern : Pattern) (valid : stamp.Valid) :
    microsecondsOf (((pattern.fieldsOf stamp.toTimestamp).find? .fraction).getD []) =
      pattern.part .microsecond stamp.time.microsecond := by
  obtain ⟨_, _, _, microsecond_fits⟩ := valid.time
  rw [find?_fieldsOf pattern stamp.toTimestamp .microsecond rfl (by decide), part]
  split
  · exact microsecondsOf_padded microsecond_fits
  · rfl

/-- The time of day that a pattern tells, if it tells the hour. -/
theorem time?_fieldsOf (pattern : Pattern) (valid : stamp.Valid) :
    (pattern.fieldsOf stamp.toTimestamp).time? =
      if pattern.TellsHour then some (pattern.conveyed stamp).time else none := by
  obtain ⟨hour_fits, minute_fits, second_fits, microsecond_fits⟩ := valid.time
  have minute := getD_number?_fieldsOf pattern .minute rfl (by decide)
    (Text.toNumber_padded 2 stamp.toTimestamp.time.minute)
  have second := getD_number?_fieldsOf pattern .second rfl (by decide)
    (Text.toNumber_padded 2 stamp.toTimestamp.time.second)
  rw [Fields.time?, hour?_fieldsOf pattern valid, minute, second,
    microsecondsOf_fieldsOf pattern valid]
  by_cases tells : pattern.TellsHour
  · rw [if_pos tells, if_pos tells, Option.bind_some, timeOf?, conveyed, if_pos tells]
    exact if_pos ⟨hour_fits, part_lt _ _ minute_fits, part_lt _ _ second_fits,
      part_lt _ _ microsecond_fits⟩
  · rw [if_neg tells, if_neg tells]
    rfl

end Time

/-- The offset that a pattern tells, if it has one. -/
theorem offset?_fieldsOf (pattern : Pattern) (stamp : ZonedTimestamp) :
    (pattern.fieldsOf stamp.toTimestamp).offset? =
      if .directive .offset ∈ pattern.items then some (plainOffset stamp.offset) else none := by
  have text := find?_fieldsOf pattern stamp.toTimestamp .offset rfl (by decide)
  by_cases zoned : .directive .offset ∈ pattern.items
  · rw [if_pos zoned] at text
    rw [offset?_of_find? text, if_pos zoned]
  · rw [if_neg zoned] at text
    rw [Fields.offset?, text, if_neg zoned]
    rfl

/-- The fields that a pattern reads from what it has written determine what it conveys. -/
theorem timestamp?_fieldsOf (tells : pattern.TellsDate) (valid : stamp.Valid)
    (reaches : pattern.YearInReach stamp.date) :
    (pattern.fieldsOf stamp.toTimestamp).timestamp? = some (pattern.conveyed stamp) := by
  rw [Fields.timestamp?, Fields.asZoned?, Fields.asLocal?, Fields.asStartOfDay?,
    date?_fieldsOf tells valid reaches, time?_fieldsOf pattern valid,
    offset?_fieldsOf pattern stamp, conveyed]
  by_cases timed : pattern.TellsHour
  · by_cases zoned : .directive .offset ∈ pattern.items
    · simp only [if_pos timed, if_pos zoned]
      rfl
    · simp only [if_pos timed, if_neg zoned]
      rfl
  · simp only [if_neg timed]
    rfl

end Pattern

end RecordingName.DateFormat
