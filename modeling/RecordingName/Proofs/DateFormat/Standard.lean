import RecordingName.DateFormat.Reading
import RecordingName.Instant
import RecordingName.Proofs.DateFormat.Matching
import RecordingName.Proofs.Text.Digits

/-!
# Reading the standard format

What the standard format writes for a timestamp is read back in front of every text
that cannot be taken for seconds of the offset. `match?_of_offset` gives the fields,
`read?_of_offset` what they determine, whatever is read for the offset, and
`read?_writeStandard` puts that together with the offset.
-/

namespace RecordingName

/-- A zoned timestamp that a calendar and a clock can show, in a supported year. -/
structure ZonedTimestamp.Valid (stamp : ZonedTimestamp) : Prop where
  supported : Date.isSupportedYear stamp.date.year
  date : stamp.date.Valid
  time : stamp.time.Valid

/-- Every instant that has a timestamp has a valid one. -/
theorem ZonedTimestamp.valid_of_ofMillis {zone : Zone} {millis : Int} {stamp : ZonedTimestamp}
    (made : ofMillis zone millis = .ok stamp) : stamp.Valid := by
  unfold ofMillis at made
  simp only at made
  split at made
  · cases made
  split at made
  · cases made
  split at made
  · cases made
  split at made
  next supported =>
      obtain rfl := Except.ok.inj made
      refine ⟨supported, Date.ofDayNumber_valid _, TimeOfDay.ofSeconds_valid ?_ ?_⟩ <;> omega
  · cases made

/-- The numbers of a valid timestamp fit the widths in which they are written. -/
theorem ZonedTimestamp.Valid.bounds {stamp : ZonedTimestamp} (valid : stamp.Valid) :
    (stamp.date.year.toNat : Int) = stamp.date.year ∧ stamp.date.year.toNat < 10000 ∧
      stamp.date.month < 100 ∧ stamp.date.day < 100 := by
  obtain ⟨supported, ⟨_, month_le, _, day_le⟩, _⟩ := valid
  simp only [Date.isSupportedYear, Bool.and_eq_true, decide_eq_true_eq] at supported
  have longest : ∀ leap : Bool, ∀ month : Nat, month < 13 →
      Date.daysInMonth leap month ≤ 31 := by decide
  have day_short := longest (Date.isLeap stamp.date.year) stamp.date.month (by omega)
  refine ⟨?_, ?_, ?_, ?_⟩ <;> omega

namespace DateFormat

/-- The digits of an offset of so many seconds in either direction. -/
def offsetDigits (size : Nat) : Text :=
  Text.padded 2 (size / 3600) ++ Text.padded 2 (size / 60 % 60) ++
    if size % 60 = 0 then [] else Text.padded 2 (size % 60)

/-- The sign of an offset. -/
def offsetSign (seconds : Int) : CodePoint :=
  if seconds < 0 then '-' else '+'

/-- An offset is a sign and digits. -/
theorem plainOffsetText_eq (seconds : Int) :
    plainOffsetText seconds = offsetSign seconds :: offsetDigits seconds.natAbs := by
  by_cases zero : seconds = 0
  · subst zero
    decide
  · rw [plainOffsetText, offsetText, if_neg zero, offsetSign, offsetDigits]
    by_cases whole : seconds.natAbs % 60 = 0 <;> simp [whole]

/-- There are two signs of an offset. -/
theorem offsetSign_eq (seconds : Int) : offsetSign seconds = '+' ∨ offsetSign seconds = '-' := by
  unfold offsetSign
  split
  · exact .inr rfl
  · exact .inl rfl

/-- The sign of an offset is no digit. -/
theorem isDigit_offsetSign (seconds : Int) : Text.isDigit (offsetSign seconds) = false := by
  unfold offsetSign
  split <;> decide

/-- An offset is written in digits. -/
theorem isDigit_of_mem_offsetDigits {size : Nat} {c : CodePoint} (written : c ∈ offsetDigits size) :
    Text.isDigit c := by
  rw [offsetDigits] at written
  rcases List.mem_append.1 written with clock | tail
  · rcases List.mem_append.1 clock with hours | minutes
    · exact Text.isDigit_of_mem_padded hours
    · exact Text.isDigit_of_mem_padded minutes
  · split at tail
    · cases tail
    · exact Text.isDigit_of_mem_padded tail

/-- An offset of less than a day has four digits, or six if it has odd seconds. -/
theorem length_offsetDigits {size : Nat} (within_day : size < 86400) :
    (offsetDigits size).length = if size % 60 = 0 then 4 else 6 := by
  have hours := Text.length_padded_two (show size / 3600 < 100 by omega)
  have minutes := Text.length_padded_two (show size / 60 % 60 < 100 by omega)
  have seconds := Text.length_padded_two (show size % 60 < 100 by omega)
  rw [offsetDigits, List.length_append, List.length_append, hours, minutes]
  split <;> simp [seconds]

/-- Whether a text could go on with the seconds of an offset: it starts with two digits. -/
def startsWithSeconds (text : Text) : Prop :=
  2 ≤ runLength Text.isDigit 2 text

instance (text : Text) : Decidable (startsWithSeconds text) :=
  inferInstanceAs (Decidable (2 ≤ runLength Text.isDigit 2 text))

/-- A text that starts with no digit at all is not taken for seconds. -/
theorem not_startsWithSeconds {text : Text} (apart : Text.StartsApart text) :
    ¬ startsWithSeconds text := by
  unfold startsWithSeconds
  cases text with
  | nil => decide
  | cons c rest =>
      rw [runLength_cons_of_outside (apart c rfl)]
      decide

/-- The preferred reading behind a sign takes six digits, or four that no two follow. -/
theorem offsetReadings_eq_cons {sign : CodePoint} {digits text : Text}
    (all_digits : ∀ c ∈ digits, Text.isDigit c)
    (taken : digits.length = 6 ∨ digits.length = 4 ∧ ¬ startsWithSeconds text) :
    ∃ more, offsetReadings (sign :: digits ++ text) =
      ([(.offset, sign :: digits)], text) :: more := by
  have fits : digits.length ≤ 6 := by omega
  have run : runLength Text.isDigit 6 ((sign :: digits ++ text).drop 1) =
      digits.length + runLength Text.isDigit (6 - digits.length) text :=
    runLength_append all_digits fits
  have kept : fieldReadings .offset [(sign :: digits).length] (sign :: digits ++ text) =
      [([(.offset, sign :: digits)], text)] := by
    simp [fieldReadings]
  rw [offsetReadings, run]
  rcases taken with six | ⟨four, apart⟩
  · rw [List.length_cons, six] at kept
    rw [six, if_pos (by simp [runLength])]
    exact ⟨_, congrArg (· ++ _) kept⟩
  · have short : runLength Text.isDigit 2 text < 2 := Nat.lt_of_not_le apart
    have not_six : 4 + runLength Text.isDigit 2 text ≠ 6 := by omega
    rw [List.length_cons, four] at kept
    rw [four, if_neg not_six, if_pos (Nat.le_add_right _ _)]
    exact ⟨[], kept⟩

/-- Behind the sign of an offset, six digits are read first, or four that no two follow. -/
theorem readings_offset_of_digits (zulu : Bool) (seconds : Int) {digits text : Text}
    (all_digits : ∀ c ∈ digits, Text.isDigit c)
    (taken : digits.length = 6 ∨ digits.length = 4 ∧ ¬ startsWithSeconds text) :
    ∃ more, (Piece.offset zulu).readings (offsetSign seconds :: digits ++ text) =
      ([(.offset, offsetSign seconds :: digits)], text) :: more := by
  obtain ⟨more, preferred⟩ := offsetReadings_eq_cons all_digits taken
  refine ⟨more, ?_⟩
  rw [← preferred]
  rcases offsetSign_eq seconds with plus | minus
  · simp [Piece.readings, plus]
  · simp [Piece.readings, minus]

/-- A written offset is what is read first, unless what follows could be its seconds. -/
theorem readings_offset (zulu : Bool) {seconds : Int} {text : Text}
    (within_day : seconds.natAbs < 86400)
    (apart : seconds.natAbs % 60 ≠ 0 ∨ ¬ startsWithSeconds text) :
    ∃ more, (Piece.offset zulu).readings (plainOffsetText seconds ++ text) =
      ([(.offset, plainOffsetText seconds)], text) :: more := by
  have digits_length := length_offsetDigits within_day
  have taken : (offsetDigits seconds.natAbs).length = 6 ∨
      (offsetDigits seconds.natAbs).length = 4 ∧ ¬ startsWithSeconds text := by
    split at digits_length
    next whole => exact .inr ⟨digits_length, apart.resolve_left (fun odd => odd whole)⟩
    · exact .inl digits_length
  rw [plainOffsetText_eq]
  exact readings_offset_of_digits zulu seconds
    (fun c written => isDigit_of_mem_offsetDigits written) taken

/-- A written offset is read back, unless what follows could be its seconds. -/
theorem readPieces_offset {seconds : Int} {text : Text} (within_day : seconds.natAbs < 86400)
    (apart : seconds.natAbs % 60 ≠ 0 ∨ ¬ startsWithSeconds text) :
    readPieces [.offset false] (plainOffsetText seconds ++ text) =
      some ([(.offset, plainOffsetText seconds)], text) := by
  obtain ⟨more, first⟩ := readings_offset false within_day apart
  have done : readPieces [] text = some ([], text) := rfl
  exact readPieces_of_first_reading first done

/-- Dropping the zeros at the end is undone by putting zeros back to the old length. -/
theorem dropLastZeros_append_replicate (text : Text) :
    dropLastZeros text ++ List.replicate (text.length - (dropLastZeros text).length) (.scalar '0') =
      text := by
  let zeros := text.reverse.takeWhile (· = .scalar '0')
  have split : text = dropLastZeros text ++ zeros.reverse := by
    rw [dropLastZeros, ← List.reverse_append, List.takeWhile_append_dropWhile, List.reverse_reverse]
  have only_zeros : zeros.reverse = List.replicate zeros.length (.scalar '0') := by
    have each_zero : zeros.all (· = .scalar '0') = true := List.all_takeWhile
    refine List.eq_replicate_iff.2 ⟨List.length_reverse, fun c dropped => ?_⟩
    simpa using List.all_eq_true.1 each_zero c (List.mem_reverse.1 dropped)
  have lengths := congrArg List.length split
  rw [List.length_append, List.length_reverse] at lengths
  have count : text.length - (dropLastZeros text).length = zeros.length := by omega
  rw [count, ← only_zeros]
  exact split.symm

/-- The digits of the fraction of a second. -/
def fractionDigits (microsecond : Nat) : Text :=
  dropLastZeros (Text.padded 6 microsecond)

/-- The fraction as it is written: a point and its digits, or nothing. -/
def fractionText (microsecond : Nat) : Text :=
  match fractionDigits microsecond with
  | [] => []
  | digits => .scalar '.' :: digits

/-- The field that is read from a written fraction. -/
def fractionFields (microsecond : Nat) : Fields :=
  match fractionDigits microsecond with
  | [] => []
  | digits => [(.fraction, digits)]

/-- The digits of a fraction with the dropped zeros put back. -/
theorem fractionDigits_append_replicate (microsecond : Nat) :
    fractionDigits microsecond ++
        List.replicate
          ((Text.padded 6 microsecond).length - (fractionDigits microsecond).length) (.scalar '0') =
      Text.padded 6 microsecond :=
  dropLastZeros_append_replicate _

/-- A fraction is written in digits. -/
theorem isDigit_of_mem_fractionDigits {microsecond : Nat} {c : CodePoint}
    (written : c ∈ fractionDigits microsecond) : Text.isDigit c := by
  have kept : c ∈ Text.padded 6 microsecond := by
    rw [← fractionDigits_append_replicate]
    exact List.mem_append_left _ written
  exact Text.isDigit_of_mem_padded kept

/-- A fraction of a second has at most six digits. -/
theorem length_fractionDigits {microsecond : Nat} (fits : microsecond < 1000000) :
    (fractionDigits microsecond).length ≤ 6 := by
  have width : (Text.padded 6 microsecond).length = 6 := Text.length_padded (by decide) fits
  have lengths := congrArg List.length (fractionDigits_append_replicate microsecond)
  rw [List.length_append, width] at lengths
  omega

/-- The digits of a fraction stand for the microseconds that they were written for. -/
theorem microsecondsOf_fractionDigits {microsecond : Nat} (fits : microsecond < 1000000) :
    microsecondsOf (fractionDigits microsecond) = microsecond := by
  have width : (Text.padded 6 microsecond).length = 6 := Text.length_padded (by decide) fits
  have filled := fractionDigits_append_replicate microsecond
  rw [width] at filled
  rw [microsecondsOf, List.take_of_length_le (length_fractionDigits fits), filled,
    Text.toNumber_padded]

/-- A written fraction is read back in front of an offset. -/
theorem readPieces_fraction {microsecond : Nat} {seconds : Int} {text behind : Text}
    {fields : Fields} (fits : microsecond < 1000000)
    (offset : readPieces [.offset false] (plainOffsetText seconds ++ text) =
      some (fields, behind)) :
    readPieces [.fraction, .offset false]
        (fractionText microsecond ++ (plainOffsetText seconds ++ text)) =
      some (fractionFields microsecond ++ fields, behind) := by
  have sign_no_point : offsetSign seconds ≠ '.' := by
    unfold offsetSign
    split <;> decide
  have short := length_fractionDigits fits
  have all_digits : ∀ c ∈ fractionDigits microsecond, Text.isDigit c :=
    fun c written => isDigit_of_mem_fractionDigits written
  unfold fractionText fractionFields
  generalize fractionDigits microsecond = digits at short all_digits
  cases digits with
  | nil =>
      have only : Piece.fraction.readings (plainOffsetText seconds ++ text) =
          [([], plainOffsetText seconds ++ text)] := by
        simp [Piece.readings, plainOffsetText_eq, sign_no_point]
      have passed := @readPieces_of_only_reading _ [.offset false] _ _ _ only
      simpa [offset] using passed
  | cons digit digits =>
      have run : runLength Text.isDigit 9 (digit :: digits ++ (plainOffsetText seconds ++ text)) =
          (digit :: digits).length := by
        rw [runLength_append all_digits (by omega), plainOffsetText_eq, List.cons_append,
          runLength_cons_of_outside (isDigit_offsetSign seconds), Nat.add_zero]
      obtain ⟨smaller, counts⟩ := downFrom_eq_cons (Nat.zero_le (digit :: digits).length)
      have first : Piece.fraction.readings
          (.scalar '.' :: (digit :: digits ++ (plainOffsetText seconds ++ text))) =
          ([(.fraction, digit :: digits)], plainOffsetText seconds ++ text) ::
            (fieldReadings .fraction smaller
                (digit :: digits ++ (plainOffsetText seconds ++ text)) ++
              [([], .scalar '.' :: (digit :: digits ++ (plainOffsetText seconds ++ text)))]) := by
        simp only [Piece.readings, run, counts, fieldReadings, List.map_cons, List.take_left,
          List.drop_left]
        rfl
      exact readPieces_of_first_reading first offset

/-- Fewer than four digits in front of another character are no month and day. -/
theorem readPieces_month_day_of_short {others : List Piece} {digits text : Text} {stop : CodePoint}
    (all_digits : ∀ c ∈ digits, Text.isDigit c) (short : digits.length < 4)
    (ends : Text.isDigit stop = false) :
    readPieces (.digits .month 2 2 :: .digits .day 2 2 :: others) (digits ++ stop :: text) =
      none := by
  by_cases month_short : digits.length < 2
  · exact readPieces_of_no_reading (readings_digits_of_short all_digits month_short ends)
  · have month_length : (digits.take 2).length = 2 := by
      rw [List.length_take]
      omega
    have day_short : (digits.drop 2).length < 2 := by
      rw [List.length_drop]
      omega
    have month_digits : ∀ c ∈ digits.take 2, Text.isDigit c :=
      fun c taken => all_digits c (List.mem_of_mem_take taken)
    have day_digits : ∀ c ∈ digits.drop 2, Text.isDigit c :=
      fun c dropped => all_digits c (List.mem_of_mem_drop dropped)
    have stuck : readPieces (.digits .day 2 2 :: others) (digits.drop 2 ++ stop :: text) = none :=
      readPieces_of_no_reading (readings_digits_of_short day_digits day_short ends)
    rw [← List.take_append_drop 2 digits, List.append_assoc,
      readPieces_digits month_digits month_length, stuck]
    rfl

/-- Behind more than four of eight digits there is no month and day. -/
theorem readPieces_month_day_of_more {others : List Piece} {digits text : Text} {stop : CodePoint}
    {count : Nat} (all_digits : ∀ c ∈ digits, Text.isDigit c) (eight : digits.length = 8)
    (ends : Text.isDigit stop = false) (more : 4 < count) (fits : count ≤ 8) :
    readPieces (.digits .month 2 2 :: .digits .day 2 2 :: others)
      ((digits ++ stop :: text).drop count) = none := by
  rw [List.drop_append_of_le_length (by omega)]
  refine readPieces_month_day_of_short (fun c dropped => ?_) ?_ ends
  · exact all_digits c (List.mem_of_mem_drop dropped)
  · rw [List.length_drop]
    omega

/-- The year takes more than four of the eight digits of a date only in vain: what is left
would be too short for month and day. -/
theorem readPieces_year_month_day {others : List Piece} {year month day text : Text}
    (year_digits : ∀ c ∈ year, Text.isDigit c) (month_digits : ∀ c ∈ month, Text.isDigit c)
    (day_digits : ∀ c ∈ day, Text.isDigit c) (year_length : year.length = 4)
    (month_length : month.length = 2) (day_length : day.length = 2) :
    readPieces (.digits .year 4 10 :: .digits .month 2 2 :: .digits .day 2 2 :: .literal '_' ::
        others) (year ++ (month ++ (day ++ .scalar '_' :: text))) =
      (readPieces others text).map fun result =>
        ((.year, year) :: (.month, month) :: (.day, day) :: result.1, result.2) := by
  let digits := year ++ (month ++ day)
  let rest := Piece.digits .month 2 2 :: .digits .day 2 2 :: .literal '_' :: others
  have shape : year ++ (month ++ (day ++ .scalar '_' :: text)) = digits ++ .scalar '_' :: text := by
    simp [digits]
  have all_digits : ∀ c ∈ digits, Text.isDigit c := by
    intro c written
    simp only [digits, List.mem_append] at written
    rcases written with in_year | in_month | in_day
    · exact year_digits c in_year
    · exact month_digits c in_month
    · exact day_digits c in_day
  have eight : digits.length = 8 := by
    simp [digits, year_length, month_length, day_length]
  have stops : Text.isDigit '_' = false := by decide
  have run : runLength Text.isDigit 10 (digits ++ .scalar '_' :: text) = 8 := by
    rw [runLength_append all_digits (by omega), runLength_cons_of_outside stops, eight]
  have greedy {count : Nat} (more : 4 < count) (fits : count ≤ 8) :
      readPieces rest ((digits ++ .scalar '_' :: text).drop count) = none :=
    readPieces_month_day_of_more all_digits eight stops more fits
  have exact_year : readPieces rest ((digits ++ .scalar '_' :: text).drop 4) =
      (readPieces others text).map fun result =>
        ((.month, month) :: (.day, day) :: result.1, result.2) := by
    have behind :
        (digits ++ .scalar '_' :: text).drop 4 = month ++ (day ++ .scalar '_' :: text) := by
      rw [← shape, ← year_length, List.drop_left]
    rw [behind, readPieces_digits month_digits month_length,
      readPieces_digits day_digits day_length, readPieces_literal]
    cases readPieces others text <;> rfl
  have taken : (digits ++ .scalar '_' :: text).take 4 = year := by
    rw [← shape, ← year_length, List.take_left]
  have counts : downFrom 8 4 = [8, 7, 6, 5, 4] := by decide
  rw [shape, readPieces, Piece.readings, run, counts]
  simp only [fieldReadings, List.map_cons, List.map_nil]
  rw [readPieces_skip (greedy (by decide) (by decide)),
    readPieces_skip (greedy (by decide) (by decide)),
    readPieces_skip (greedy (by decide) (by decide)),
    readPieces_skip (greedy (by decide) (by decide))]
  simp only [List.findSome?_cons, List.findSome?_nil, exact_year, taken]
  cases readPieces others text <;> rfl

/-- The fields of a timestamp in the standard format, with a text that is read for the offset. -/
def fieldsWithOffset (stamp : ZonedTimestamp) (offset : Text) : Fields :=
  (.year, Text.padded 4 stamp.date.year.toNat) :: (.month, Text.padded 2 stamp.date.month) ::
    (.day, Text.padded 2 stamp.date.day) :: (.hour, Text.padded 2 stamp.time.hour) ::
    (.minute, Text.padded 2 stamp.time.minute) :: (.second, Text.padded 2 stamp.time.second) ::
    (fractionFields stamp.time.microsecond ++ [(.offset, offset)])

/-- The parts of the standard format, one behind the other. -/
theorem writeStandard_append (stamp : ZonedTimestamp) (text : Text) :
    writeStandard stamp ++ text =
      Text.padded 4 stamp.date.year.toNat ++ (Text.padded 2 stamp.date.month ++
        (Text.padded 2 stamp.date.day ++ .scalar '_' :: (Text.padded 2 stamp.time.hour ++
          (Text.padded 2 stamp.time.minute ++ (Text.padded 2 stamp.time.second ++
            (fractionText stamp.time.microsecond ++
              (plainOffsetText stamp.offset.seconds ++ text))))))) := by
  simp only [writeStandard, List.append_assoc, List.cons_append]
  rfl

/-- The standard format is written in digits and a few other signs. -/
theorem of_mem_writeStandard {stamp : ZonedTimestamp} {c : CodePoint}
    (written : c ∈ writeStandard stamp) :
    Text.isDigit c ∨ c ∈ [CodePoint.scalar '_', '.', '+', '-'] := by
  have fraction : c ∈ fractionText stamp.time.microsecond → Text.isDigit c ∨ c = '.' := by
    unfold fractionText
    intro shown
    split at shown
    · cases shown
    · rcases List.mem_cons.1 shown with point | digit
      · exact .inr point
      · exact .inl (isDigit_of_mem_fractionDigits digit)
  have offset : c ∈ plainOffsetText stamp.offset.seconds →
      Text.isDigit c ∨ c ∈ [CodePoint.scalar '+', '-'] := by
    rw [plainOffsetText_eq, offsetSign]
    intro shown
    rcases List.mem_cons.1 shown with sign | digit
    · right
      split at sign <;> simp [sign]
    · exact .inl (isDigit_of_mem_offsetDigits digit)
  have parts := writeStandard_append stamp []
  rw [List.append_nil, List.append_nil] at parts
  simp only [parts, List.mem_append, List.mem_cons] at written
  have digit {width number : Nat} (shown : c ∈ Text.padded width number) :
      Text.isDigit c ∨ c ∈ [CodePoint.scalar '_', '.', '+', '-'] :=
      .inl (Text.isDigit_of_mem_padded shown)
  rcases written with year | month | day | rfl | hour | minute | second | shown | shown
  · exact digit year
  · exact digit month
  · exact digit day
  · exact .inr (by simp)
  · exact digit hour
  · exact digit minute
  · exact digit second
  · exact (fraction shown).imp_right fun point => by simp [point]
  · refine (offset shown).imp_right fun sign => ?_
    rcases List.mem_cons.1 sign with rfl | minus
    · simp
    · simp [List.mem_singleton.1 minus]

/-- The standard format starts with a digit. -/
theorem exists_cons_writeStandard (stamp : ZonedTimestamp) :
    ∃ first rest, writeStandard stamp = first :: rest ∧ Text.isDigit first := by
  cases shape : Text.padded 4 stamp.date.year.toNat with
  | nil =>
      have wide := congrArg List.length shape
      rw [Text.padded, List.length_append, List.length_replicate, List.length_nil] at wide
      omega
  | cons first rest =>
      have digit : Text.isDigit first :=
        Text.isDigit_of_mem_padded (shape ▸ List.mem_cons_self ..)
      rw [← List.append_nil (writeStandard stamp), writeStandard_append, shape]
      exact ⟨first, _, List.cons_append .., digit⟩

/-- A written timestamp is taken apart into its fields, with whatever is read for the offset. -/
theorem match?_of_offset {stamp : ZonedTimestamp} {text offset behind : Text} (valid : stamp.Valid)
    (read : readPieces [.offset false] (plainOffsetText stamp.offset.seconds ++ text) =
      some ([(.offset, offset)], behind)) :
    Formatter.standard.match? (writeStandard stamp ++ text) =
      some (fieldsWithOffset stamp offset) := by
  obtain ⟨_, year_fits, month_fits, day_fits⟩ := valid.bounds
  obtain ⟨hour_fits, minute_fits, second_fits, microsecond_fits⟩ := valid.time
  have digits {width number : Nat} : ∀ c ∈ Text.padded width number, Text.isDigit c :=
    fun c written => Text.isDigit_of_mem_padded written
  have fraction := readPieces_fraction microsecond_fits read
  rw [Formatter.match?, Formatter.pieces, standardPieces, writeStandard_append,
    readPieces_year_month_day digits digits digits (Text.length_padded (by decide) year_fits)
      (Text.length_padded_two month_fits) (Text.length_padded_two day_fits),
    readPieces_digits digits (Text.length_padded_two (by omega)),
    readPieces_digits digits (Text.length_padded_two (by omega)),
    readPieces_digits digits (Text.length_padded_two (by omega)), fraction]
  rfl

/-- An offset counts its digits in pairs: hours, minutes and seconds. -/
theorem offsetSeconds_pairs {sign : CodePoint} {hours minutes tail : Text}
    (hours_length : hours.length = 2) (minutes_length : minutes.length = 2)
    (tail_length : tail.length ≤ 2) :
    Fields.offsetSeconds (sign :: (hours ++ minutes ++ tail)) =
      let size := 3600 * Text.toNumber hours + 60 * Text.toNumber minutes + Text.toNumber tail
      if sign = '-' then -(size : Int) else size := by
  have behind_hours : (hours ++ (minutes ++ tail)).drop 2 = minutes ++ tail :=
    List.drop_left' hours_length
  have behind_minutes : (hours ++ (minutes ++ tail)).drop 4 = tail := by
    rw [show 4 = 2 + 2 from rfl, ← List.drop_drop, behind_hours, List.drop_left' minutes_length]
  simp only [Fields.offsetSeconds, List.append_assoc, List.drop_succ_cons, List.drop_zero,
    List.head?_cons, Option.some.injEq, behind_hours, behind_minutes,
    List.take_left' hours_length, List.take_left' minutes_length,
    List.take_of_length_le tail_length]

/-- The text of an offset stands for the seconds that it was written for. -/
theorem offsetSeconds_plainOffsetText {seconds : Int} (within_day : seconds.natAbs < 86400) :
    Fields.offsetSeconds (plainOffsetText seconds) = seconds := by
  have hours_length := Text.length_padded_two (show seconds.natAbs / 3600 < 100 by omega)
  have minutes_length := Text.length_padded_two (show seconds.natAbs / 60 % 60 < 100 by omega)
  have seconds_length := Text.length_padded_two (show seconds.natAbs % 60 < 100 by omega)
  let tail := if seconds.natAbs % 60 = 0 then [] else Text.padded 2 (seconds.natAbs % 60)
  have tail_length : tail.length ≤ 2 := by
    simp only [tail]
    split
    · exact Nat.zero_le _
    · exact Nat.le_of_eq seconds_length
  have tail_number : Text.toNumber tail = seconds.natAbs % 60 := by
    simp only [tail]
    split
    next whole => exact whole.symm
    · exact Text.toNumber_padded ..
  rw [plainOffsetText_eq, offsetDigits, offsetSeconds_pairs hours_length minutes_length tail_length,
    Text.toNumber_padded, Text.toNumber_padded, tail_number, offsetSign]
  by_cases negative : seconds < 0
  · simp only [if_pos negative, if_true]
    omega
  · simp only [if_neg negative,
      show (CodePoint.scalar '+' = .scalar '-') = False by decide, if_false]
    omega

/-- An offset as it is known without its region. -/
def plainOffset (offset : Offset) : Offset :=
  ⟨offset.seconds, Offset.plainAbbreviation offset.seconds, offset.within_day⟩

/-- A timestamp with the abbreviation of its offset forgotten. -/
def plainTimestamp (stamp : ZonedTimestamp) : Timestamp :=
  ⟨stamp.date, stamp.time, some (plainOffset stamp.offset)⟩

/-- The text that the fields of the standard format hold for one of them. -/
theorem find?_fieldsWithOffset (stamp : ZonedTimestamp) (offset : Text) (field : Field) :
    (fieldsWithOffset stamp offset).find? field =
      match field with
      | .year => some (Text.padded 4 stamp.date.year.toNat)
      | .month => some (Text.padded 2 stamp.date.month)
      | .day => some (Text.padded 2 stamp.date.day)
      | .hour => some (Text.padded 2 stamp.time.hour)
      | .minute => some (Text.padded 2 stamp.time.minute)
      | .second => some (Text.padded 2 stamp.time.second)
      | .fraction => Fields.find? (fractionFields stamp.time.microsecond) .fraction
      | .offset => some offset
      | _ => none := by
  unfold fieldsWithOffset fractionFields
  cases fractionDigits stamp.time.microsecond <;> cases field <;> rfl

/-- The digits that are read for a fraction. -/
theorem find?_fractionFields (microsecond : Nat) :
    (Fields.find? (fractionFields microsecond) .fraction).getD [] = fractionDigits microsecond := by
  unfold fractionFields
  cases fractionDigits microsecond <;> rfl

/-- The date in the fields of the standard format. -/
theorem date?_fieldsWithOffset {stamp : ZonedTimestamp} (valid : stamp.Valid) (offset : Text) :
    (fieldsWithOffset stamp offset).date? = some stamp.date := by
  obtain ⟨same_year, _⟩ := valid.bounds
  have exists_day : Date.isSupportedYear stamp.date.year ∧ stamp.date.Valid :=
    ⟨valid.supported, valid.date⟩
  simp only [Fields.date?, Fields.year?, Fields.number?, find?_fieldsWithOffset, Option.map_some,
    Option.map_none, Option.bind_some, Text.toNumber_padded, dateOf?, same_year]
  exact if_pos exists_day

/-- The time of day in the fields of the standard format. -/
theorem time?_fieldsWithOffset {stamp : ZonedTimestamp} (valid : stamp.Valid) (offset : Text) :
    (fieldsWithOffset stamp offset).time? = some stamp.time := by
  obtain ⟨_, _, _, microsecond_fits⟩ := valid.time
  simp only [Fields.time?, Fields.hour?, Fields.number?, find?_fieldsWithOffset, Option.map_some,
    Option.bind_some, Option.getD_some, Text.toNumber_padded, find?_fractionFields,
    microsecondsOf_fractionDigits microsecond_fits, timeOf?]
  exact if_pos valid.time

/-- A written timestamp is read with its date and its time, and with the offset that the text read
for it stands for, if there is such an offset. -/
theorem read?_of_offset {stamp : ZonedTimestamp} {text offset behind : Text} (valid : stamp.Valid)
    (read : readPieces [.offset false] (plainOffsetText stamp.offset.seconds ++ text) =
      some ([(.offset, offset)], behind)) :
    Formatter.standard.read? (writeStandard stamp ++ text) =
      some ⟨stamp.date, stamp.time, (fieldsWithOffset stamp offset).offset?⟩ := by
  rw [Formatter.read?, match?_of_offset valid read, Option.bind_some, Fields.timestamp?,
    Fields.asZoned?, Fields.asLocal?, date?_fieldsWithOffset valid, time?_fieldsWithOffset valid]
  cases (fieldsWithOffset stamp offset).offset? <;> rfl

/-- The text of an offset in a field determines the offset. -/
theorem offset?_of_find? {fields : Fields} {offset : Offset}
    (found : fields.find? .offset = some (plainOffsetText offset.seconds)) :
    fields.offset? = some (plainOffset offset) := by
  have within_day := offset.within_day
  have signed : plainOffsetText offset.seconds ≠ [CodePoint.scalar 'Z'] := by
    rw [plainOffsetText_eq, offsetSign]
    intro same
    split at same <;> simp at same
  simp only [Fields.offset?, found, Option.bind_some, if_neg signed,
    offsetSeconds_plainOffsetText (show offset.seconds.natAbs < 86400 by omega), Offset.fixed?]
  exact dif_pos within_day

/-- A timestamp in the standard format is read back, whatever follows it that could not be
seconds of the offset. -/
theorem read?_writeStandard {stamp : ZonedTimestamp} {text : Text} (valid : stamp.Valid)
    (apart : stamp.offset.seconds.natAbs % 60 ≠ 0 ∨ ¬ startsWithSeconds text) :
    Formatter.standard.read? (writeStandard stamp ++ text) = some (plainTimestamp stamp) := by
  have within_day : stamp.offset.seconds.natAbs < 86400 := by
    have := stamp.offset.within_day
    omega
  rw [read?_of_offset valid (readPieces_offset within_day apart), plainTimestamp,
    offset?_of_find? (find?_fieldsWithOffset stamp _ .offset)]

end DateFormat
end RecordingName
