import RecordingName.Proofs.DateFormat.Patterns
import RecordingName.Proofs.DateFormat.Seconds

/-!
# Timestamps written and read back

What a formatter has written is read back wherever it stands in a text. For the standard format
that is the whole timestamp, if what follows cannot be taken for seconds of the offset, by
`read?_standard_inside`. For a pattern it is what the pattern conveys, unless the pattern holds a
surrogate, by which nothing can be written, or the null character, which ends what is written but
is sought by what reads: `readsBack_iff`.
-/

namespace RecordingName.DateFormat

section Standard

/-- A timestamp in the standard format is read back with its date, its time and the seconds of its
offset from behind any text and in front of any other, unless it has an offset of whole minutes and
two digits follow. -/
theorem read?_standard_inside {stamp : ZonedTimestamp} (valid : stamp.Valid) (front behind : Text)
    (apart : stamp.offset.seconds.natAbs % 60 ≠ 0 ∨ ¬ startsWithSeconds behind) :
    Formatter.standard.read? ((front ++ writeStandard stamp ++ behind).drop front.length) =
      some (plainTimestamp stamp) := by
  rw [List.append_assoc, List.drop_left]
  exact read?_writeStandard valid apart

/-- A moment in the first year, half a minute behind universal time. -/
def firstMoment : ZonedTimestamp :=
  ⟨⟨1, 1, 1⟩, ⟨0, 0, 0, 50000⟩, ⟨-30, Offset.plainAbbreviation (-30), by decide⟩⟩

/-- Digits behind an offset with seconds of its own do not lengthen it. -/
theorem read?_standard_inside_digits :
    firstMoment.Valid ∧ startsWithSeconds "99".text ∧
    Formatter.standard.read?
        (("20".text ++ "00010101_000000.05-000030".text ++ "99".text).drop 2) =
      some ⟨⟨1, 1, 1⟩, ⟨0, 0, 0, 50000⟩, some firstMoment.offset⟩ := by
  have valid : firstMoment.Valid := ⟨by decide, by decide, by decide⟩
  have written : writeStandard firstMoment = "00010101_000000.05-000030".text := by decide
  have odd : firstMoment.offset.seconds.natAbs % 60 ≠ 0 := by decide
  refine ⟨valid, by decide, ?_⟩
  rw [← written]
  exact read?_standard_inside valid "20".text "99".text (.inl odd)

end Standard

section Patterns

variable {pattern : Pattern} {stamp : ZonedTimestamp}

/-- A pattern writes every timestamp within its reach, and reads back what it conveys of it, with
anything in front of what it has written, and behind it anything that starts with no digit. -/
def Pattern.ReadsBack (pattern : Pattern) : Prop :=
  ∀ (stamp : ZonedTimestamp) (front behind : Text), stamp.Valid → pattern.YearInReach stamp.date →
    Text.StartsApart behind →
    ∃ written, (Formatter.custom pattern).format stamp.toTimestamp = .ok written ∧
      (Formatter.custom pattern).read? ((front ++ written ++ behind).drop front.length) =
        some (pattern.conveyed stamp)

/-- A pattern without surrogates and without the null character reads back what it conveys. -/
theorem Pattern.readsBack_of_whole (unambiguous : pattern.Unambiguous)
    (encodable : (Formatter.custom pattern).IsEncodable)
    (whole : .literal '\x00' ∉ pattern.items) : pattern.ReadsBack := by
  intro stamp front behind valid reaches apart
  refine Formatter.exists_format_iff.2 ⟨encodable, ?_⟩
  rw [List.append_assoc, List.drop_left]
  exact read?_write_append unambiguous whole valid reaches apart

/-- A pattern with the null character cannot read what it has written. -/
theorem Pattern.read?_write_of_null (unnamed : .directive .zoneName ∉ pattern.items)
    (valid : stamp.Valid) (null : .literal '\x00' ∈ pattern.items) :
    (Formatter.custom pattern).read? (pattern.write stamp.toTimestamp) = none := by
  have unwritten : .scalar '\x00' ∉ pattern.write stamp.toTimestamp := by
    refine notMem_write unnamed valid (by decide) fun early => ?_
    simpa using List.all_eq_true.1 List.all_takeWhile _ early
  rw [Formatter.read?, match?_of_notMem null unwritten]
  rfl

/-- The afternoon of a leap day within the reach of two digits of a year. -/
def leapDay : ZonedTimestamp :=
  ⟨⟨2000, 2, 29⟩, ⟨15, 4, 5, 60⟩, ⟨-20730, Offset.plainAbbreviation (-20730), by decide⟩⟩

theorem valid_leapDay : leapDay.Valid := ⟨by decide, by decide, by decide⟩

/-- The leap day lies in the century that two digits stand for. -/
theorem Pattern.yearInReach_leapDay (pattern : Pattern) : pattern.YearInReach leapDay.date :=
  ⟨by decide, fun _ => by decide⟩

/-- What a pattern has written of the leap day by itself is read back, if the pattern reads back
what it conveys. -/
theorem Pattern.ReadsBack.leapDay (reads : pattern.ReadsBack) :
    (Formatter.custom pattern).IsEncodable ∧
      (Formatter.custom pattern).read? (pattern.write DateFormat.leapDay.toTimestamp) =
        some (pattern.conveyed DateFormat.leapDay) := by
  obtain ⟨encodable, read⟩ := Formatter.exists_format_iff.1
    (reads _ [] [] valid_leapDay pattern.yearInReach_leapDay .nil)
  rw [List.append_nil, List.nil_append, List.length_nil, List.drop_zero] at read
  exact ⟨encodable, read⟩

/-- Of the patterns that tell the date without ambiguity, exactly those read back what they convey
that can be written by and do not hold the null character. -/
theorem readsBack_iff (unambiguous : pattern.Unambiguous) :
    pattern.ReadsBack ↔
      (Formatter.custom pattern).IsEncodable ∧ .literal '\x00' ∉ pattern.items := by
  refine ⟨fun reads => ⟨reads.leapDay.1, fun null => ?_⟩, fun ⟨encodable, whole⟩ =>
    Pattern.readsBack_of_whole unambiguous encodable whole⟩
  have read := reads.leapDay.2
  rw [Pattern.read?_write_of_null unambiguous.unnamed valid_leapDay null] at read
  cases read

/-- A pattern with the day of the year, the hours of half a day, and a fraction next to an
offset. -/
def ordinalPattern : Pattern where
  items := [.directive .shortYear, .directive .dayOfYear, .literal 'T', .directive .hour12,
    .directive .half, .directive .second, .directive .microsecond, .directive .offset]

/-- The pattern reads back the date and the parts of the time that it has. -/
theorem readsBack_iff_ordinal :
    ordinalPattern.Unambiguous ∧
    (Formatter.custom ordinalPattern).read?
        (("rec".text ++ "00060T03PM05000060-054530".text ++ "_1".text).drop 3) =
      some ⟨⟨2000, 2, 29⟩, ⟨15, 0, 5, 60⟩, some leapDay.offset⟩ := by
  have unambiguous : ordinalPattern.Unambiguous :=
    ⟨⟨.inr (by decide), .inl (by decide)⟩, by decide, by decide⟩
  have written : ordinalPattern.write leapDay.toTimestamp = "00060T03PM05000060-054530".text := by
    decide
  have reads := (readsBack_iff unambiguous).2 ⟨rfl, by decide⟩
  refine ⟨unambiguous, ?_⟩
  rw [← written]
  exact (Formatter.exists_format_iff.1 (reads leapDay "rec".text "_1".text valid_leapDay
    ordinalPattern.yearInReach_leapDay (.cons (by decide) _))).2

/-- The pattern of a day in front of the null character. -/
def endedPattern : Pattern where
  items := [.directive .year, .directive .month, .directive .day, .literal '\x00']

/-- The day is written without the null character, and not read back. -/
theorem ended_pattern_unread :
    Pattern.parse "%Y%m%d\x00".text = .ok endedPattern ∧ endedPattern.Unambiguous ∧
    endedPattern.write leapDay.toTimestamp = "20000229".text ∧
    (Formatter.custom endedPattern).read? "20000229".text = none ∧
    ¬ ∀ pattern : Pattern, pattern.Unambiguous → pattern.ReadsBack := by
  have unambiguous : endedPattern.Unambiguous :=
    ⟨⟨.inl (by decide), .inr ⟨by decide, .inl (by decide)⟩⟩, by decide, by decide⟩
  have printed : endedPattern.print = "%Y%m%d\x00".text := by decide
  have parsed := Pattern.parse_print (show endedPattern.items ≠ [] by decide)
  rw [printed] at parsed
  have written : endedPattern.write leapDay.toTimestamp = "20000229".text := by decide
  have unread := Pattern.read?_write_of_null unambiguous.unnamed valid_leapDay
    (show .literal '\x00' ∈ endedPattern.items by decide)
  rw [written] at unread
  refine ⟨parsed, unambiguous, written, unread, fun reads => ?_⟩
  have read := (reads endedPattern unambiguous).leapDay.2
  rw [written, unread] at read
  cases read

end Patterns

end RecordingName.DateFormat
