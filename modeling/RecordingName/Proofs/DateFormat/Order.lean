import RecordingName.Proofs.Calendar.Order
import RecordingName.Proofs.DateFormat.Standard
import RecordingName.Proofs.Instant
import RecordingName.Proofs.Text.Order

/-!
# The order of the standard format

At one offset the standard format writes timestamps in the order of their instants, by
`standard_write_order`: each of its parts decides unless it is the same in both. The fraction is cut
to different lengths and followed by the sign of the offset. `fractionText_append_lt_iff` says that
this does not disturb the order, because the signs come before the point and the point before the
digits.
-/

namespace RecordingName

namespace ZonedTimestamp

/-- The microseconds since the start of 1970 in universal time. -/
def universalMicros (stamp : ZonedTimestamp) : Int :=
  1000000 * (stamp.localSeconds - stamp.offset.seconds) + stamp.time.microsecond

/-- The timestamp of an instant counts it in microseconds. -/
theorem universalMicros_of_ofMillis {zone : Zone} {millis : Int} {stamp : ZonedTimestamp}
    (made : ofMillis zone millis = .ok stamp) : stamp.universalMicros = 1000 * millis := by
  have shown := ofMillis_eq_ok_iff.1 made
  obtain ⟨days, counted, seconds⟩ := shown.seconds
  have number := (Date.isCounted_iff_dayNumber shown.valid.date _).1 counted
  have micro := shown.microsecond
  simp only [universalMicros, localSeconds, number]
  omega

/-- At one offset the earlier timestamp is that of the earlier day, or of the earlier second of the
same day, or of the earlier microsecond of the same second. -/
theorem universalMicros_lt_iff {first second : ZonedTimestamp} (first_valid : first.Valid)
    (second_valid : second.Valid) (same : first.offset.seconds = second.offset.seconds) :
    first.universalMicros < second.universalMicros ↔
      first.date.dayNumber < second.date.dayNumber ∨
      first.date.dayNumber = second.date.dayNumber ∧
        (first.time.seconds < second.time.seconds ∨ first.time.seconds = second.time.seconds ∧
          first.time.microsecond < second.time.microsecond) := by
  have first_in_day := TimeOfDay.seconds_lt first_valid.time
  have second_in_day := TimeOfDay.seconds_lt second_valid.time
  obtain ⟨_, _, _, first_in_second⟩ := first_valid.time
  obtain ⟨_, _, _, second_in_second⟩ := second_valid.time
  simp only [universalMicros, localSeconds, same]
  omega

end ZonedTimestamp

namespace DateFormat

/-- A character stays in front of the zeros at the end unless it is the first of them. -/
theorem dropLastZeros_cons (c : CodePoint) (rest : Text) :
    dropLastZeros (c :: rest) =
      if dropLastZeros rest = [] ∧ c = '0' then [] else c :: dropLastZeros rest := by
  simp only [dropLastZeros, List.reverse_cons, List.dropWhile_append, List.reverse_eq_nil_iff,
    List.isEmpty_iff]
  by_cases only_zeros : rest.reverse.dropWhile (· = .scalar '0') = []
  · by_cases zero : c = '0' <;> simp [only_zeros, zero]
  · simp [only_zeros]

/-- What is left without the zeros at the end was there before. -/
theorem mem_of_mem_dropLastZeros {text : Text} {c : CodePoint} (kept : c ∈ dropLastZeros text) :
    c ∈ text := by
  rw [← dropLastZeros_append_replicate text]
  exact List.mem_append_left _ kept

section Sign

variable {sign : CodePoint} {first second : Text}

/-- In front of a sign that is smaller than any digit, digits make a text greater. -/
theorem cons_lt_dropLastZeros_append (low : sign < .scalar '0')
    (digits : ∀ c ∈ first, .scalar '0' ≤ c)
    (shown : dropLastZeros first ≠ []) (tail : Text) :
    sign :: tail < dropLastZeros first ++ sign :: tail := by
  cases shape : dropLastZeros first with
  | nil => exact absurd shape shown
  | cons c rest =>
      have kept : c ∈ dropLastZeros first := shape ▸ List.mem_cons_self ..
      have digit := digits c (mem_of_mem_dropLastZeros kept)
      exact List.cons_lt_cons_iff.2 (.inl (lt_of_lt_of_le low digit))

/-- Digits keep their order when they lose the zeros at their end in front of a sign that is smaller
than any digit. -/
theorem dropLastZeros_append_lt_iff (low : sign < .scalar '0')
    (digits : ∀ c ∈ first, .scalar '0' ≤ c)
    (others : ∀ c ∈ second, .scalar '0' ≤ c) (same : first.length = second.length) (tail : Text) :
    dropLastZeros first ++ sign :: tail < dropLastZeros second ++ sign :: tail ↔
      first < second := by
  induction first generalizing second with
  | nil =>
      obtain rfl := List.length_eq_zero_iff.1 same.symm
      simp
  | cons c rest ih =>
      cases second with
      | nil => cases same
      | cons d more =>
          obtain ⟨digit, rest_digits⟩ := List.forall_mem_cons.1 digits
          obtain ⟨other_digit, more_digits⟩ := List.forall_mem_cons.1 others
          have behind := ih rest_digits more_digits (Nat.succ.inj same)
          rw [dropLastZeros_cons, dropLastZeros_cons, List.cons_lt_cons_iff]
          -- Either side is cut to nothing or keeps its first digit.
          split
          next cut =>
            obtain ⟨nothing, rfl⟩ := cut
            rw [nothing] at behind
            split
            next other_cut =>
              obtain ⟨other_nothing, rfl⟩ := other_cut
              rw [other_nothing] at behind
              simp [← behind]
            next kept =>
              have less : sign :: tail < d :: dropLastZeros more ++ sign :: tail :=
                List.cons_lt_cons_iff.2 (.inl (lt_of_lt_of_le low other_digit))
              refine iff_of_true less ?_
              rcases lt_or_eq_of_le other_digit with greater | rfl
              · exact .inl greater
              · have shown : dropLastZeros more ≠ [] := fun nothing => kept ⟨nothing, rfl⟩
                have above := cons_lt_dropLastZeros_append low more_digits shown tail
                exact .inr ⟨rfl, behind.1 above⟩
          next kept =>
            split
            next other_cut =>
              obtain ⟨other_nothing, rfl⟩ := other_cut
              rw [other_nothing] at behind
              have greater : sign :: tail < c :: dropLastZeros rest ++ sign :: tail :=
                List.cons_lt_cons_iff.2 (.inl (lt_of_lt_of_le low digit))
              refine iff_of_false greater.not_gt ?_
              rintro (less | ⟨rfl, less⟩)
              · exact less.not_ge digit
              · have shown : dropLastZeros rest ≠ [] := fun nothing => kept ⟨nothing, rfl⟩
                have above := cons_lt_dropLastZeros_append low rest_digits shown tail
                exact above.not_gt (behind.2 less)
            next => rw [List.cons_append, List.cons_append, List.cons_lt_cons_iff, behind]

end Sign

/-- The signs of offsets come before the point and before all digits. -/
theorem offsetSign_lt (seconds : Int) :
    offsetSign seconds < .scalar '.' ∧ offsetSign seconds < .scalar '0' := by
  rcases offsetSign_eq seconds with plus | minus
  · rw [plus]
    decide
  · rw [minus]
    decide

/-- No character of a padded number comes before the zero. -/
theorem zero_le_of_mem_padded {width number : Nat} {c : CodePoint}
    (written : c ∈ Text.padded width number) : .scalar '0' ≤ c :=
  (CodePoint.isDigit_iff_toNat.1 (Text.core_isDigit_of_mem_padded written)).1

section Fraction

variable {microsecond other : Nat} (fits : microsecond < 1000000) (other_fits : other < 1000000)
  (seconds : Int)
include fits other_fits

/-- The digits of fractions in front of the same offset are ordered as their microseconds. -/
theorem fractionDigits_append_lt_iff :
    fractionDigits microsecond ++ plainOffsetText seconds <
      fractionDigits other ++ plainOffsetText seconds ↔ microsecond < other := by
  have digits {number : Nat} : ∀ c ∈ Text.padded 6 number, .scalar '0' ≤ c :=
    fun c written => zero_le_of_mem_padded written
  have width : (Text.padded 6 microsecond).length = 6 := Text.length_padded (by decide) fits
  have other_width : (Text.padded 6 other).length = 6 := Text.length_padded (by decide) other_fits
  have whole := Text.padded_append_lt_iff (show 0 < 6 by decide) fits other_fits [] []
  have cut := dropLastZeros_append_lt_iff (offsetSign_lt seconds).2 digits digits
    (width.trans other_width.symm) (offsetDigits seconds.natAbs)
  rw [plainOffsetText_eq]
  exact cut.trans (by simpa using whole)

/-- Fractions in front of the same offset are ordered as their microseconds. The point of a fraction
is greater than the sign of the offset, as its first digit is. -/
theorem fractionText_append_lt_iff :
    fractionText microsecond ++ plainOffsetText seconds <
      fractionText other ++ plainOffsetText seconds ↔ microsecond < other := by
  rw [← fractionDigits_append_lt_iff fits other_fits seconds, plainOffsetText_eq]
  obtain ⟨below_point, below_digits⟩ := offsetSign_lt seconds
  have below {number : Nat} {c : CodePoint} {rest : Text}
      (shape : fractionDigits number = c :: rest) :
      offsetSign seconds < c := by
    have shown : c ∈ fractionDigits number := shape ▸ List.mem_cons_self ..
    exact lt_of_lt_of_le below_digits (zero_le_of_mem_padded (mem_of_mem_dropLastZeros shown))
  unfold fractionText
  cases first_shape : fractionDigits microsecond with
  | nil =>
      cases second_shape : fractionDigits other with
      | nil => rfl
      | cons d more =>
          exact iff_of_true (List.cons_lt_cons_iff.2 (.inl below_point))
            (List.cons_lt_cons_iff.2 (.inl (below second_shape)))
  | cons c rest =>
      cases second_shape : fractionDigits other with
      | nil =>
          have pointed : offsetSign seconds :: offsetDigits seconds.natAbs <
              .scalar '.' :: (c :: rest) ++ offsetSign seconds :: offsetDigits seconds.natAbs :=
            List.cons_lt_cons_iff.2 (.inl below_point)
          have greater : offsetSign seconds :: offsetDigits seconds.natAbs <
              c :: rest ++ offsetSign seconds :: offsetDigits seconds.natAbs :=
            List.cons_lt_cons_iff.2 (.inl (below first_shape))
          exact iff_of_false pointed.not_gt greater.not_gt
      | cons d more => exact List.cons_lt_cons_self

end Fraction

section Parts

/-- Three parts that are compared in front of a rest are compared as one part. -/
theorem three_parts_iff {first same_first second same_second third same_third rest : Prop} :
    (first ∨ same_first ∧ (second ∨ same_second ∧ (third ∨ same_third ∧ rest))) ↔
      (first ∨ same_first ∧ (second ∨ same_second ∧ third)) ∨
        (same_first ∧ same_second ∧ same_third) ∧ rest := by
  tauto

variable {first second : ZonedTimestamp}

/-- What stands behind two dates counts only if these are the same day. -/
theorem date_append_lt_iff (first_valid : first.Valid) (second_valid : second.Valid)
    (rest following : Text) :
    Text.padded 4 first.date.year.toNat ++ (Text.padded 2 first.date.month ++
        (Text.padded 2 first.date.day ++ rest)) <
      Text.padded 4 second.date.year.toNat ++ (Text.padded 2 second.date.month ++
        (Text.padded 2 second.date.day ++ following)) ↔
      first.date.dayNumber < second.date.dayNumber ∨
        first.date.dayNumber = second.date.dayNumber ∧ rest < following := by
  obtain ⟨first_year, first_year_fits, first_month_fits, first_day_fits⟩ := first_valid.bounds
  obtain ⟨second_year, second_year_fits, second_month_fits, second_day_fits⟩ := second_valid.bounds
  have less := Date.dayNumber_lt_iff first_valid.date second_valid.date
  have greater := Date.dayNumber_lt_iff second_valid.date first_valid.date
  have year : first.date.year < second.date.year ↔
      first.date.year.toNat < second.date.year.toNat := by omega
  have same_year : first.date.year = second.date.year ↔
      first.date.year.toNat = second.date.year.toNat := by omega
  have alike : first.date.dayNumber = second.date.dayNumber ↔
      first.date.year = second.date.year ∧ first.date.month = second.date.month ∧
        first.date.day = second.date.day := by omega
  rw [Text.padded_append_lt_iff (by decide) first_year_fits second_year_fits,
    Text.padded_append_lt_iff (by decide) first_month_fits second_month_fits,
    Text.padded_append_lt_iff (by decide) first_day_fits second_day_fits, less, alike, year,
    same_year, three_parts_iff]

/-- What stands behind two times of day counts only if these are the same second. -/
theorem time_append_lt_iff (first_valid : first.Valid) (second_valid : second.Valid)
    (rest following : Text) :
    Text.padded 2 first.time.hour ++ (Text.padded 2 first.time.minute ++
        (Text.padded 2 first.time.second ++ rest)) <
      Text.padded 2 second.time.hour ++ (Text.padded 2 second.time.minute ++
        (Text.padded 2 second.time.second ++ following)) ↔
      first.time.seconds < second.time.seconds ∨
        first.time.seconds = second.time.seconds ∧ rest < following := by
  obtain ⟨first_hour, first_minute, first_second, _⟩ := first_valid.time
  obtain ⟨second_hour, second_minute, second_second, _⟩ := second_valid.time
  have less := TimeOfDay.seconds_lt_iff first_valid.time second_valid.time
  have greater := TimeOfDay.seconds_lt_iff second_valid.time first_valid.time
  have alike : first.time.seconds = second.time.seconds ↔
      first.time.hour = second.time.hour ∧ first.time.minute = second.time.minute ∧
        first.time.second = second.time.second := by omega
  have fits {number : Nat} (small : number < 60) : number < Nat.pow 10 2 := by
    change number < 100
    omega
  rw [Text.padded_append_lt_iff (by decide) (fits (by omega)) (fits (by omega)),
    Text.padded_append_lt_iff (by decide) (fits first_minute) (fits second_minute),
    Text.padded_append_lt_iff (by decide) (fits first_second) (fits second_second), less,
    alike, three_parts_iff]

/-- The parts of the standard format are compared one behind the other. -/
theorem writeStandard_lt_iff (first_valid : first.Valid) (second_valid : second.Valid)
    (same : first.offset.seconds = second.offset.seconds) :
    writeStandard first < writeStandard second ↔
      first.universalMicros < second.universalMicros := by
  obtain ⟨_, _, _, first_in_second⟩ := first_valid.time
  obtain ⟨_, _, _, second_in_second⟩ := second_valid.time
  have first_parts := writeStandard_append first []
  have second_parts := writeStandard_append second []
  rw [List.append_nil, List.append_nil] at first_parts second_parts
  rw [first_parts, second_parts, date_append_lt_iff first_valid second_valid,
    List.cons_lt_cons_self, time_append_lt_iff first_valid second_valid, same,
    fractionText_append_lt_iff first_in_second second_in_second,
    ZonedTimestamp.universalMicros_lt_iff first_valid second_valid same]

end Parts

/-- Timestamps with one offset are written in the standard format in the order of their instants,
and two of them alike exactly if they are of the same instant. -/
theorem standard_write_order {first second : ZonedTimestamp} (first_valid : first.Valid)
    (second_valid : second.Valid) (same : first.offset.seconds = second.offset.seconds) :
    (Formatter.standard.write first < Formatter.standard.write second ↔
      first.universalMicros < second.universalMicros) ∧
    (Formatter.standard.write first = Formatter.standard.write second ↔
      first.universalMicros = second.universalMicros) := by
  have less := writeStandard_lt_iff first_valid second_valid same
  have greater := writeStandard_lt_iff second_valid first_valid same.symm
  refine ⟨less, ?_⟩
  change writeStandard first = writeStandard second ↔ _
  constructor
  · intro alike
    rw [alike] at less greater
    have not_less := mt less.2 (lt_irrefl _)
    have not_greater := mt greater.2 (lt_irrefl _)
    omega
  · intro at_once
    have not_less := mt less.1 (by omega)
    have not_greater := mt greater.1 (by omega)
    exact le_antisymm (le_of_not_gt not_greater) (le_of_not_gt not_less)

/-- A second that the clocks of Monrovia have shown before 1970, and so many microseconds of it. -/
def secondInMonrovia (microsecond : Nat) : ZonedTimestamp :=
  ⟨⟨1969, 12, 31⟩, ⟨23, 15, 29, microsecond⟩, Zone.Monrovia.mmtSecond⟩

/-- A whole second is written in front of its quarter, though one has the sign of the offset where
the other has its point. -/
theorem standard_write_order_quarter :
    (secondInMonrovia 0).Valid ∧ (secondInMonrovia 250000).Valid ∧
    Formatter.standard.write (secondInMonrovia 0) = "19691231_231529-004430".text ∧
    Formatter.standard.write (secondInMonrovia 250000) = "19691231_231529.25-004430".text ∧
    Formatter.standard.write (secondInMonrovia 0) <
      Formatter.standard.write (secondInMonrovia 250000) := by
  have whole : (secondInMonrovia 0).Valid := ⟨by decide, by decide, by decide⟩
  have quarter : (secondInMonrovia 250000).Valid := ⟨by decide, by decide, by decide⟩
  obtain ⟨order, _⟩ := standard_write_order whole quarter rfl
  exact ⟨whole, quarter, by decide, by decide, order.2 (by decide)⟩

end DateFormat
end RecordingName
