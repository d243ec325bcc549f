import RecordingName.Proofs.DateFormat.Standard

/-!
# Digits behind the standard format

The seconds of an offset are written only if there are any, but read wherever two more digits
stand. So the first two digits of what follows a timestamp lengthen an offset of whole minutes, by
`addedSeconds`. `read?_writeStandard_append` says what is read in front of any text: always the
date and the time, and the offset that is so lengthened. That is the offset of the timestamp
exactly if the digits are zeros, by `fixed?_lengthened_iff`.
-/

namespace RecordingName.DateFormat

/-- A text that starts with seconds starts with two digits. -/
theorem startsWithSeconds_iff {text : Text} :
    startsWithSeconds text ↔
      ∃ first second rest, text = first :: second :: rest ∧ Text.isDigit first ∧
        Text.isDigit second := by
  constructor
  · intro starts
    -- A text that ends or goes on with no digit before two digits is apart from the one in front.
    cases text with
    | nil => exact absurd starts (not_startsWithSeconds .nil)
    | cons first behind =>
        by_cases first_digit : Text.isDigit first
        · cases behind with
          | nil =>
              have one : runLength Text.isDigit 2 [first] ≤ 1 :=
                (List.takeWhile_sublist _).length_le
              exact absurd starts (Nat.not_le_of_lt (Nat.lt_succ_of_le one))
          | cons second rest =>
              refine ⟨first, second, rest, rfl, first_digit, ?_⟩
              refine Classical.byContradiction fun other => ?_
              have one : runLength Text.isDigit 2 (first :: second :: rest) = 1 := by
                simp [runLength, first_digit, other]
              rw [startsWithSeconds, one] at starts
              omega
        · exact absurd starts (not_startsWithSeconds (.cons (by simpa using first_digit) behind))
  · rintro ⟨first, second, rest, rfl, first_digit, second_digit⟩
    simp [startsWithSeconds, runLength, first_digit, second_digit]

/-- The seconds that the first two digits of a text add to an offset in front of it, which has
none of its own. -/
def addedSeconds (seconds : Int) (text : Text) : Nat :=
  if seconds.natAbs % 60 = 0 ∧ startsWithSeconds text then Text.toNumber (text.take 2) else 0

/-- An offset with seconds added in its own direction. -/
def lengthened (seconds : Int) (more : Nat) : Int :=
  if seconds < 0 then seconds - more else seconds + more

/-- Two digits behind an offset of whole minutes are read as its seconds. -/
theorem readPieces_offset_digits {seconds : Int} {first second : CodePoint}
    (within_day : seconds.natAbs < 86400) (whole : seconds.natAbs % 60 = 0)
    (first_digit : Text.isDigit first) (second_digit : Text.isDigit second) (rest : Text) :
    readPieces [.offset false] (plainOffsetText seconds ++ first :: second :: rest) =
      some ([(.offset, plainOffsetText seconds ++ [first, second])], rest) := by
  have four := length_offsetDigits within_day
  rw [if_pos whole] at four
  have all_digits : ∀ c ∈ offsetDigits seconds.natAbs ++ [first, second], Text.isDigit c := by
    intro c member
    rcases List.mem_append.1 member with written | added
    · exact isDigit_of_mem_offsetDigits written
    · rcases List.mem_cons.1 added with rfl | last
      · exact first_digit
      · rw [List.mem_singleton.1 last]
        exact second_digit
  obtain ⟨more, preferred⟩ := readings_offset_of_digits false seconds all_digits
    (.inl (by rw [List.length_append, four]; rfl) : _ ∨ _ ∧ ¬ startsWithSeconds rest)
  have done : readPieces [] rest = some ([], rest) := rfl
  have read := readPieces_of_first_reading preferred done
  rw [plainOffsetText_eq]
  simpa using read

/-- Digits behind an offset of whole minutes lengthen it. -/
theorem offsetSeconds_digits {seconds : Int} (within_day : seconds.natAbs < 86400)
    (whole : seconds.natAbs % 60 = 0) (first second : CodePoint) :
    Fields.offsetSeconds (plainOffsetText seconds ++ [first, second]) =
      lengthened seconds (Text.toNumber [first, second]) := by
  have hours_length := Text.length_padded_two (show seconds.natAbs / 3600 < 100 by omega)
  have minutes_length := Text.length_padded_two (show seconds.natAbs / 60 % 60 < 100 by omega)
  have tail_length : [first, second].length ≤ 2 := Nat.le_refl 2
  have counted := @offsetSeconds_pairs (offsetSign seconds) _ _ _ hours_length minutes_length
    tail_length
  rw [plainOffsetText_eq, offsetDigits, if_pos whole, List.append_nil, List.cons_append, counted,
    Text.toNumber_padded, Text.toNumber_padded, offsetSign, lengthened]
  by_cases negative : seconds < 0
  · simp only [if_pos negative, if_true]
    omega
  · simp only [if_neg negative,
      show (CodePoint.scalar '+' = .scalar '-') = False by decide, if_false]
    omega

/-- In front of any text, a timestamp in the standard format is read with its date and its time,
and with its offset lengthened by the digits that the text starts with. -/
theorem read?_writeStandard_append {stamp : ZonedTimestamp} (valid : stamp.Valid) (text : Text) :
    Formatter.standard.read? (writeStandard stamp ++ text) =
      some ⟨stamp.date, stamp.time, Offset.fixed?
        (lengthened stamp.offset.seconds (addedSeconds stamp.offset.seconds text))⟩ := by
  have within_day : stamp.offset.seconds.natAbs < 86400 := by
    have := stamp.offset.within_day
    omega
  rw [addedSeconds]
  split
  next taken =>
    obtain ⟨whole, starts⟩ := taken
    obtain ⟨first, second, rest, rfl, first_digit, second_digit⟩ := startsWithSeconds_iff.1 starts
    rw [read?_of_offset valid
      (readPieces_offset_digits within_day whole first_digit second_digit rest)]
    have signed :
        plainOffsetText stamp.offset.seconds ++ [first, second] ≠ [CodePoint.scalar 'Z'] := by
      intro same
      have lengths := congrArg List.length same
      simp at lengths
    simp only [Fields.offset?, find?_fieldsWithOffset, Option.bind_some, if_neg signed,
      offsetSeconds_digits within_day whole]
    rfl
  next apart =>
    have own : lengthened stamp.offset.seconds 0 = stamp.offset.seconds := by
      simp [lengthened]
    rw [read?_writeStandard valid (Decidable.not_and_iff_not_or_not.1 apart), own, Offset.fixed?,
      dif_pos stamp.offset.within_day]
    rfl

/-- A lengthened offset is the same offset only if nothing has been added. -/
theorem fixed?_lengthened_iff (offset : Offset) (more : Nat) :
    (Offset.fixed? (lengthened offset.seconds more)).map Offset.seconds = some offset.seconds ↔
      more = 0 := by
  have within_day := offset.within_day
  constructor
  · intro same
    obtain ⟨read, fixed, equal⟩ := Option.map_eq_some_iff.1 same
    rw [Offset.fixed?] at fixed
    split at fixed
    · cases fixed
      dsimp only [lengthened] at equal
      split at equal <;> omega
    · cases fixed
  · rintro rfl
    simp [Offset.fixed?, lengthened, within_day]

end RecordingName.DateFormat
