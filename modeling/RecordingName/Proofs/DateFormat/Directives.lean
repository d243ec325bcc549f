import RecordingName.Proofs.DateFormat.Standard
import RecordingName.Proofs.Text.Blank

/-!
# Reading what a directive writes

What a directive writes is what it reads first, by `Directive.readings_write`, unless it is
the name of a zone; and a filename keeps it, by `Directive.isKeptText_write`.
-/

namespace RecordingName.DateFormat

section Words

/-- Whether no text starts with both of two words, in any case: they differ in a letter. -/
def clash : (word other : Text) → Bool
  | letter :: letters, c :: others => !sameLetter letter c || clash letters others
  | _, _ => false

theorem sameLetter_self (letter : CodePoint) : sameLetter letter letter := by
  simp [sameLetter]

/-- What follows a word at the start of a text. -/
theorem afterWord?_append (word text : Text) : afterWord? word (word ++ text) = some text := by
  induction word with
  | nil => rfl
  | cons letter letters ih => rw [List.cons_append, afterWord?, if_pos (sameLetter_self letter), ih]

/-- A word is not found where another one stands. -/
theorem afterWord?_of_clash {word other : Text} (differ : clash other word) (text : Text) :
    afterWord? other (word ++ text) = none := by
  induction word generalizing other with
  | nil => cases other <;> cases differ
  | cons c rest ih =>
      cases other with
      | nil => cases differ
      | cons letter letters =>
          rw [List.cons_append, afterWord?]
          split
          next same =>
            refine ih ?_
            simpa [clash, same] using differ
          · rfl

variable {field : Option Field} {words : List Text} {word : Text}

/-- A word that differs from all others is what is read where it stands. -/
theorem readings_word (member : word ∈ words)
    (apart : ∀ other ∈ words, other ≠ word → clash other word) (text : Text) :
    ∃ more, (Piece.word field words).readings (word ++ text) =
      (field.toList.map fun name => (name, word), text) :: more := by
  simp only [Piece.readings]
  induction words with
  | nil => cases member
  | cons first others ih =>
      by_cases here : first = word
      · rw [here, List.filterMap_cons, afterWord?_append, Option.map_some, List.take_left]
        cases field with
        | none => exact ⟨_, rfl⟩
        | some name => exact ⟨_, rfl⟩
      · have differ := apart first (List.mem_cons_self ..) here
        rw [List.filterMap_cons, afterWord?_of_clash differ, Option.map_none]
        refine ih ?_ fun other later => apart other (List.mem_cons_of_mem _ later)
        exact (List.mem_cons.1 member).resolve_left fun same => here same.symm

/-- The lists of words that directives write. -/
def wordLists : List (List Text) :=
  [monthNames, monthNames.map abbreviate, weekdayNames, weekdayNames.map abbreviate,
    [['A', 'M'], ['P', 'M']]]

/-- The words of a list differ from each other. -/
theorem clash_of_mem_wordLists (listed : words ∈ wordLists) (member : word ∈ words) :
    ∀ other ∈ words, other ≠ word → clash other word := by
  have known : ∀ words ∈ wordLists, ∀ word ∈ words, ∀ other ∈ words, other ≠ word →
      clash other word := by decide
  exact known words listed word member

end Words

/-- What a directive writes consists of characters that a filename keeps: they are visible, no
path separators, and do not end a text. -/
def IsKept (c : CodePoint) : Prop :=
  Text.isBlank c = false ∧ c ≠ '/' ∧ c ≠ '\\' ∧ c ≠ '\x00'

instance (c : CodePoint) : Decidable (IsKept c) :=
  inferInstanceAs (Decidable (_ ∧ _))

/-- Digits come through into file names. -/
theorem isKept_of_isDigit {c : CodePoint} (digit : Text.isDigit c) : IsKept c := by
  have other {sign : CodePoint} (no_digit : Text.isDigit sign = false) : c ≠ sign := by
    rintro rfl
    simp [no_digit] at digit
  exact ⟨Text.isBlank_of_isDigit digit, other (by decide), other (by decide), other (by decide)⟩

/-- A text of at least one character, all of which are kept. -/
structure IsKeptText (text : Text) : Prop where
  nonempty : text ≠ []
  each : ∀ c ∈ text, IsKept c

/-- So does every padded number. -/
theorem isKeptText_padded {width : Nat} (positive : 0 < width) (number : Nat) :
    IsKeptText (Text.padded width number) := by
  refine ⟨?_, fun c written => isKept_of_isDigit (Text.isDigit_of_mem_padded written)⟩
  intro empty
  have wide := congrArg List.length empty
  rw [Text.padded, List.length_append, List.length_replicate, List.length_nil] at wide
  omega

/-- So does every name of a day, of a month or of a half of the day. -/
theorem isKeptText_of_mem_wordLists {words : List Text} {word : Text}
    (listed : words ∈ wordLists) (member : word ∈ words) : IsKeptText word := by
  have known : (wordLists.all fun words => words.all fun word =>
      word ≠ [] && word.all fun c => decide (IsKept c)) = true := by decide
  have kept := List.all_eq_true.1 (List.all_eq_true.1 known words listed) word member
  simp only [Bool.and_eq_true, decide_eq_true_eq, List.all_eq_true] at kept
  exact ⟨kept.1, kept.2⟩

/-- So does every written offset. -/
theorem isKeptText_plainOffsetText (seconds : Int) : IsKeptText (plainOffsetText seconds) := by
  rw [plainOffsetText_eq]
  refine ⟨List.cons_ne_nil _ _, fun c written => ?_⟩
  rcases List.mem_cons.1 written with rfl | digit
  · unfold offsetSign
    split <;> decide
  · exact isKept_of_isDigit (isDigit_of_mem_offsetDigits digit)

namespace Directive

/-- The field that a directive is read into, unless it is passed over. -/
def field? (kind : Directive) : Option Field :=
  match kind.piece with
  | .digits field _ _ => some field
  | .word field _ => field
  | .offset _ => some .offset
  | _ => none

/-- The fields that a directive is read into from what it writes. -/
def fieldsOf (stamp : Timestamp) (kind : Directive) : Fields :=
  kind.field?.toList.map fun field => (field, kind.write stamp)

variable {stamp : ZonedTimestamp}

theorem getD_mem {words : List Text} {index : Nat} (inside : index < words.length) :
    words.getD index [] ∈ words := by
  rw [List.getD_eq_getElem?_getD, List.getElem?_eq_getElem inside]
  exact List.getElem_mem inside

/-- A directive that is read as a word writes one of the words. -/
theorem write_mem {kind : Directive} {field : Option Field} {words : List Text}
    (worded : kind.piece = .word field words) (valid : stamp.Valid) :
    words ∈ wordLists ∧ kind.write stamp.toTimestamp ∈ words := by
  obtain ⟨_, ⟨month_pos, month_le, _, _⟩, _⟩ := valid
  have month : monthNames.getD (stamp.date.month - 1) [] ∈ monthNames :=
    getD_mem (show stamp.date.month - 1 < 12 by omega)
  have weekday : weekdayNames.getD stamp.date.weekday [] ∈ weekdayNames :=
    getD_mem (show ((stamp.date.dayNumber + 3) % 7).toNat < 7 by omega)
  cases kind <;> cases worded
  case monthAbbreviation => exact ⟨by decide, List.mem_map_of_mem month⟩
  case monthName => exact ⟨by decide, month⟩
  case weekdayAbbreviation => exact ⟨by decide, List.mem_map_of_mem weekday⟩
  case weekdayName => exact ⟨by decide, weekday⟩
  case half =>
    refine ⟨by decide, ?_⟩
    simp only [write]
    split
    · exact List.mem_cons_self ..
    · exact List.mem_cons_of_mem _ (List.mem_cons_self ..)

/-- A year of four digits is written in four digits. -/
theorem length_year (valid : stamp.Valid) (four : 1000 ≤ stamp.date.year) :
    (Text.decimal stamp.date.year.toNat).length = 4 := by
  obtain ⟨same_year, year_fits, _⟩ := valid.bounds
  have most : (Text.decimal stamp.date.year.toNat).length ≤ 4 :=
    (Text.length_decimal_le_iff (by decide)).2 year_fits
  have least : ¬ (Text.decimal stamp.date.year.toNat).length ≤ 3 := by
    intro short
    have small : stamp.date.year.toNat < 10 ^ 3 :=
      (Text.length_decimal_le_iff (by decide)).1 short
    omega
  omega

/-- The number of a day in its year has at most three digits. -/
theorem length_dayOfYear (valid : stamp.Valid) :
    (Text.padded 3 stamp.date.dayOfYear).length = 3 := by
  have most := (Date.dayOfYear_le valid.date).2
  have longest (leap : Bool) : Date.daysInYear leap ≤ 366 := by cases leap <;> decide
  have bound := longest (Date.isLeap stamp.date.year)
  exact Text.length_padded (by decide) (show _ < 1000 by omega)

/-- What a directive writes is what it reads first, whatever follows; only an offset must not be
followed by digits. -/
theorem readings_write (valid : stamp.Valid) (four : 1000 ≤ stamp.date.year) {kind : Directive}
    (known : kind ≠ .zoneName) {text : Text} (apart : kind = .offset → Text.StartsApart text) :
    ∃ more, kind.piece.readings (kind.write stamp.toTimestamp ++ text) =
      (kind.fieldsOf stamp.toTimestamp, text) :: more := by
  obtain ⟨_, _, month_fits, day_fits⟩ := valid.bounds
  obtain ⟨hour_fits, minute_fits, second_fits, microsecond_fits⟩ := valid.time
  have pair {field : Field} {number : Nat} (fits : number < 100) :
      ∃ more, (Piece.digits field 2 2).readings (Text.padded 2 number ++ text) =
        ([(field, Text.padded 2 number)], text) :: more :=
    readings_digits_of_most (fun c written => Text.isDigit_of_mem_padded written)
      (Text.length_padded_two fits) (Nat.le_refl 2)
  have word {kind : Directive} {field : Option Field} {words : List Text}
      (worded : kind.piece = .word field words) :
      ∃ more, (Piece.word field words).readings (kind.write stamp.toTimestamp ++ text) =
        (field.toList.map fun name => (name, kind.write stamp.toTimestamp), text) :: more := by
    obtain ⟨listed, member⟩ := write_mem worded valid
    exact readings_word member (clash_of_mem_wordLists listed member) text
  cases kind with
  | year =>
      exact readings_digits_of_most (fun c written => Text.isDigit_of_mem_decimal written)
        (length_year valid four) (Nat.le_refl 4)
  | shortYear => exact pair (show (stamp.date.year % 100).toNat < 100 by omega)
  | month => exact pair month_fits
  | monthAbbreviation => exact word rfl
  | monthName => exact word rfl
  | day => exact pair day_fits
  | dayOfYear =>
      exact readings_digits_of_most (fun c written => Text.isDigit_of_mem_padded written)
        (length_dayOfYear valid) (Nat.le_refl 3)
  | weekdayAbbreviation => exact word rfl
  | weekdayName => exact word rfl
  | hour => exact pair (Nat.lt_trans hour_fits (by decide))
  | hour12 => exact pair (show (stamp.time.hour + 11) % 12 + 1 < 100 by omega)
  | half => exact word rfl
  | minute => exact pair (Nat.lt_trans minute_fits (by decide))
  | second => exact pair (Nat.lt_trans second_fits (by decide))
  | microsecond =>
      exact readings_digits_of_most (fun c written => Text.isDigit_of_mem_padded written)
        (Text.length_padded (by decide) microsecond_fits) (by decide)
  | offset =>
      refine readings_offset true ?_ (.inr (not_startsWithSeconds (apart rfl)))
      have := stamp.offset.within_day
      omega
  | zoneName => exact absurd rfl known

/-- A filename keeps what a directive writes. -/
theorem isKeptText_write (valid : stamp.Valid) {kind : Directive} (known : kind ≠ .zoneName) :
    IsKeptText (kind.write stamp.toTimestamp) := by
  have two (number : Nat) : IsKeptText (Text.padded 2 number) :=
    isKeptText_padded (by decide) number
  have word {kind : Directive} {field : Option Field} {words : List Text}
      (worded : kind.piece = .word field words) : IsKeptText (kind.write stamp.toTimestamp) := by
    obtain ⟨listed, member⟩ := write_mem worded valid
    exact isKeptText_of_mem_wordLists listed member
  cases kind with
  | year =>
      refine ⟨?_, fun c written => isKept_of_isDigit (Text.isDigit_of_mem_decimal written)⟩
      exact Text.decimal_ne_nil _
  | shortYear => exact two _
  | month => exact two _
  | monthAbbreviation => exact word rfl
  | monthName => exact word rfl
  | day => exact two _
  | dayOfYear => exact isKeptText_padded (by decide) _
  | weekdayAbbreviation => exact word rfl
  | weekdayName => exact word rfl
  | hour => exact two _
  | hour12 => exact two _
  | half => exact word rfl
  | minute => exact two _
  | second => exact two _
  | microsecond => exact isKeptText_padded (by decide) _
  | offset => exact isKeptText_plainOffsetText _
  | zoneName => exact absurd rfl known

end Directive

end RecordingName.DateFormat
