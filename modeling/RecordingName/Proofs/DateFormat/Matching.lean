import RecordingName.DateFormat.Piece

/-!
# Matching piece by piece

A sequence of pieces goes on behind the first reading of its first piece that
carries through. A piece with one reading passes its text on, by
`readPieces_of_only_reading`, and one without a reading ends the match, by
`readPieces_of_no_reading`. What a run of digits offers depends on its length
alone: `runLength_append` and `readings_digits`. `Piece.reads_of_mem_readings` says
what any reading of a piece is like.
-/

namespace RecordingName.DateFormat

variable {piece : Piece} {others : List Piece} {text behind : Text} {fields : Fields}

/-- A run of a class goes on in the text behind it, as far as the limit leaves room. -/
theorem runLength_append {class_ : CodePoint → Bool} {most : Nat} {run : Text}
    (inside : ∀ c ∈ run, class_ c) (fits : run.length ≤ most) :
    runLength class_ most (run ++ text) =
      run.length + runLength class_ (most - run.length) text := by
  rw [runLength, List.take_append, List.take_of_length_le fits,
    List.takeWhile_append_of_pos inside, List.length_append, runLength]

/-- There is no run where the first character is outside the class. -/
theorem runLength_cons_of_outside {class_ : CodePoint → Bool} {head : CodePoint}
    (outside : class_ head = false) (most : Nat) (rest : Text) :
    runLength class_ most (head :: rest) = 0 := by
  cases most <;> simp [runLength, outside]

/-- The limit bounds every run. -/
theorem runLength_le (class_ : CodePoint → Bool) (most : Nat) (text : Text) :
    runLength class_ most text ≤ most :=
  Nat.le_trans (List.takeWhile_sublist _).length_le (List.length_take_le _ _)

/-- The counts from a number down to itself are that number. -/
theorem downFrom_self (count : Nat) : downFrom count count = [count] := by
  have single : count + 1 - count = 1 := by omega
  simp [downFrom, single]

/-- The first count from a number down is the number itself. -/
theorem downFrom_eq_cons {most least : Nat} (long : least ≤ most) :
    ∃ smaller, downFrom most least = most :: smaller := by
  have steps : most + 1 - least = (most - least) + 1 := by omega
  rw [downFrom, steps, List.range_succ_eq_map]
  exact ⟨_, rfl⟩

/-- There are no counts from a number down to a greater one. -/
theorem downFrom_of_lt {most least : Nat} (short : most < least) : downFrom most least = [] := by
  have empty : most + 1 - least = 0 := by omega
  simp [downFrom, empty]

/-- The counts from a number down to zero are one more than those from the number before, and
zero. -/
theorem downFrom_succ_zero (most : Nat) :
    downFrom (most + 1) 0 = (downFrom most 0).map (· + 1) ++ [0] := by
  have step : ∀ passed ∈ List.range (most + 1), most + 1 - passed = most - passed + 1 := by
    intro passed member
    have bound := List.mem_range.1 member
    omega
  rw [downFrom, downFrom, Nat.sub_zero, Nat.sub_zero, List.range_succ, List.map_append,
    List.map_map, List.map_congr_left step, List.map_singleton, Nat.sub_self]
  rfl

/-- The rests behind a run are what is left of the text when each count of its characters, from
the whole run down, is taken away. -/
theorem restsBehind_eq (class_ : CodePoint → Bool) (text : Text) (longer : List Text) :
    restsBehind class_ text longer =
      (downFrom (text.takeWhile class_).length 0).map (text.drop ·) ++ longer := by
  induction text generalizing longer with
  | nil => rfl
  | cons head rest ih =>
      cases inside : class_ head with
      | false =>
          rw [restsBehind, inside, List.takeWhile_cons_of_neg (by simp [inside])]
          rfl
      | true =>
          rw [restsBehind, inside, if_pos rfl, ih, List.takeWhile_cons_of_pos inside,
            List.length_cons, downFrom_succ_zero, List.map_append, List.map_map, List.append_assoc]
          rfl

/-- What the readings of a piece are: the fields that it yields, and the text behind it. How many
digits are taken is left open. -/
inductive Piece.Reads : Piece → Text → Fields × Text → Prop where
  | literal (c : CodePoint) (rest : Text) : Reads (.literal c) (c :: rest) ([], rest)
  | digits (field : Field) (least most count : Nat) (text : Text) :
      Reads (.digits field least most) text ([(field, text.take count)], text.drop count)
  | word (field : Option Field) {words : List Text} {word text rest : Text}
      (listed : word ∈ words) (found : afterWord? word text = some rest) :
      Reads (.word field words) text
        (field.toList.map fun name => (name, text.take word.length), rest)
  | offset (zulu : Bool) (count : Nat) (text : Text) :
      Reads (.offset zulu) text ([(.offset, text.take count)], text.drop count)
  | zoneName {head : CodePoint} {rest behind : Text} (start : isZoneStart head)
      (left : behind ∈ restsBehind isZonePart rest []) : Reads .zoneName (head :: rest) ([], behind)
  | fraction (count : Nat) (rest : Text) :
      Reads .fraction (.scalar '.' :: rest) ([(.fraction, rest.take count)], rest.drop count)
  | noFraction (text : Text) : Reads .fraction text ([], text)

/-- Every reading of a piece is one of these. -/
theorem Piece.reads_of_mem_readings {reading : Fields × Text}
    (member : reading ∈ piece.readings text) : piece.Reads text reading := by
  cases piece with
  | literal c =>
      cases text with
      | nil => cases member
      | cons head rest =>
          simp only [readings] at member
          split at member
          next same =>
            subst same
            rw [List.mem_singleton.1 member]
            exact .literal head rest
          · cases member
  | digits field least most =>
      obtain ⟨count, _, rfl⟩ := List.mem_map.1 member
      exact .digits field least most count text
  | word field words =>
      obtain ⟨word, listed, found⟩ := List.mem_filterMap.1 member
      obtain ⟨rest, behind, rfl⟩ := Option.map_eq_some_iff.1 found
      cases field with
      | none => exact .word none listed behind
      | some name => exact .word (some name) listed behind
  | offset zulu =>
      cases text with
      | nil => cases member
      | cons head rest =>
          simp only [readings] at member
          split at member
          · obtain ⟨count, _, rfl⟩ := List.mem_map.1 member
            exact .offset zulu count _
          · split at member
            · rw [List.mem_singleton.1 member]
              exact .offset zulu 1 (head :: rest)
            · cases member
  | zoneName =>
      cases text with
      | nil => cases member
      | cons head rest =>
          simp only [readings] at member
          split at member
          next start =>
            obtain ⟨behind, left, rfl⟩ := List.mem_map.1 member
            exact .zoneName start left
          · cases member
  | fraction =>
      cases text with
      | nil =>
          rw [List.mem_singleton.1 member]
          exact .noFraction []
      | cons head rest =>
          simp only [readings] at member
          rcases List.mem_append.1 member with pointed | plain
          · split at pointed
            next point =>
              obtain ⟨count, _, rfl⟩ := List.mem_map.1 pointed
              subst point
              exact .fraction count rest
            · cases pointed
          · rw [List.mem_singleton.1 plain]
            exact .noFraction _

/-- Digits of a fixed width are read in one way from a text that starts with so many. -/
theorem readings_digits {field : Field} {width : Nat} {digits : Text}
    (all_digits : ∀ c ∈ digits, Text.isDigit c) (exact_width : digits.length = width) :
    (Piece.digits field width width).readings (digits ++ text) = [([(field, digits)], text)] := by
  subst exact_width
  have run : runLength Text.isDigit digits.length (digits ++ text) = digits.length := by
    rw [runLength_append all_digits (Nat.le_refl _), Nat.sub_self,
      Nat.le_zero.1 (runLength_le Text.isDigit 0 text), Nat.add_zero]
  simp [Piece.readings, run, downFrom_self, fieldReadings]

/-- As many digits as a piece takes at most are what it takes first. -/
theorem readings_digits_of_most {field : Field} {least most : Nat} {digits : Text}
    (all_digits : ∀ c ∈ digits, Text.isDigit c) (exact_width : digits.length = most)
    (enough : least ≤ most) :
    ∃ more, (Piece.digits field least most).readings (digits ++ text) =
      ([(field, digits)], text) :: more := by
  subst exact_width
  have run : runLength Text.isDigit digits.length (digits ++ text) = digits.length := by
    rw [runLength_append all_digits (Nat.le_refl _), Nat.sub_self,
      Nat.le_zero.1 (runLength_le Text.isDigit 0 text), Nat.add_zero]
  obtain ⟨smaller, counts⟩ := downFrom_eq_cons enough
  rw [Piece.readings, run, counts, fieldReadings, List.map_cons, List.take_left, List.drop_left]
  exact ⟨_, rfl⟩

/-- Digits of a fixed width are not read from a text that starts with fewer. -/
theorem readings_digits_of_short {field : Field} {width : Nat} {digits : Text} {stop : CodePoint}
    (all_digits : ∀ c ∈ digits, Text.isDigit c) (short : digits.length < width)
    (ends : Text.isDigit stop = false) :
    (Piece.digits field width width).readings (digits ++ stop :: text) = [] := by
  have run : runLength Text.isDigit width (digits ++ stop :: text) = digits.length := by
    rw [runLength_append all_digits (Nat.le_of_lt short), runLength_cons_of_outside ends,
      Nat.add_zero]
  simp [Piece.readings, run, downFrom_of_lt short, fieldReadings]

/-- A sequence goes on behind the first reading if the rest carries through. -/
theorem readPieces_of_first_reading {more : List (Fields × Text)} {result : Fields × Text}
    (first : piece.readings text = (fields, behind) :: more)
    (carries : readPieces others behind = some result) :
    readPieces (piece :: others) text = some (fields ++ result.1, result.2) := by
  simp [readPieces, first, carries]

/-- A piece with one reading leaves the rest of the sequence no choice. -/
theorem readPieces_of_only_reading (only : piece.readings text = [(fields, behind)]) :
    readPieces (piece :: others) text =
      (readPieces others behind).map fun result => (fields ++ result.1, result.2) := by
  simp only [readPieces, only, List.findSome?_cons, List.findSome?_nil]
  cases readPieces others behind <;> rfl

/-- A piece without a reading ends the match. -/
theorem readPieces_of_no_reading (without : piece.readings text = []) :
    readPieces (piece :: others) text = none := by
  simp [readPieces, without]

/-- A reading behind which the sequence does not carry through is passed over. -/
theorem readPieces_skip {more : List (Fields × Text)} (stuck : readPieces others behind = none) :
    (((fields, behind) :: more).findSome? fun reading =>
      (readPieces others reading.2).map fun result => (reading.1 ++ result.1, result.2)) =
    more.findSome? fun reading =>
      (readPieces others reading.2).map fun result => (reading.1 ++ result.1, result.2) := by
  simp [stuck]

/-- A character that stands for itself is read where it stands. -/
theorem readPieces_literal (c : CodePoint) (others : List Piece) (text : Text) :
    readPieces (.literal c :: others) (c :: text) = readPieces others text := by
  have only : (Piece.literal c).readings (c :: text) = [([], text)] := by simp [Piece.readings]
  rw [readPieces_of_only_reading only]
  cases readPieces others text <;> rfl

/-- Digits of a fixed width in front of the rest of a text become a field. -/
theorem readPieces_digits {field : Field} {width : Nat} {digits : Text}
    (all_digits : ∀ c ∈ digits, Text.isDigit c) (exact_width : digits.length = width) :
    readPieces (.digits field width width :: others) (digits ++ text) =
      (readPieces others text).map fun result => ((field, digits) :: result.1, result.2) :=
  readPieces_of_only_reading (readings_digits all_digits exact_width)

end RecordingName.DateFormat
