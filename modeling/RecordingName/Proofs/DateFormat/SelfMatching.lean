import Mathlib.Data.List.Basic
import RecordingName.Zone.Tables
import RecordingName.Proofs.DateFormat.RoundTrip

/-!
# Patterns that match what they have written

Each piece of a pattern can stop where the text of its item ends, whatever follows, by
`Directive.takes_write`, and so the pattern matches what it has written. There are three exceptions:
a surrogate, by which nothing is written, the null character, which is sought but not written, and
the abbreviation of an offset that is a number, because a letter is sought there. By
`matchesOwn_iff` there are no others.
-/

namespace RecordingName

namespace Offset

/-- An offset whose abbreviation is a number: a sign and digits. -/
def IsNumeric (offset : Offset) : Prop :=
  ∃ sign digits, offset.abbreviation = sign :: digits ∧ (sign = '+' ∨ sign = '-') ∧
    digits ≠ [] ∧ ∀ c ∈ digits, c.isDigit

/-- The abbreviations that offsets have: letters or a number in a region, and otherwise that of a
fixed offset. -/
inductive IsNamed (offset : Offset) : Prop where
  | letters (nonempty : offset.abbreviation ≠ []) (each : ∀ c ∈ offset.abbreviation, c.isAlpha)
  | number (numeric : offset.IsNumeric)
  | fixed (same : offset.abbreviation = plainAbbreviation offset.seconds)

end Offset

namespace DateFormat

variable {offset : Offset} {stamp : ZonedTimestamp} {pattern : Pattern} {items : List Item}

section Abbreviations

/-- The matcher of zone names takes letters and digits. -/
theorem isZonePart_of_isAlphanum {c : CodePoint} (inside : c.isAlphanum) : isZonePart c := by
  simp [isZonePart, inside]

theorem isZonePart_of_isDigit {c : CodePoint} (digit : c.isDigit) : isZonePart c := by
  apply isZonePart_of_isAlphanum
  simp [CodePoint.isAlphanum, digit]

theorem isZonePart_of_isAlpha {c : CodePoint} (letter : c.isAlpha) : isZonePart c := by
  apply isZonePart_of_isAlphanum
  simp [CodePoint.isAlphanum, letter]

/-- It takes what an offset is written with. -/
theorem isZonePart_of_mem_clockText {seconds : Int} {c : CodePoint}
    (written : c ∈ Offset.clockText seconds) : isZonePart c := by
  have digits {number : Nat} (shown : c ∈ Text.padded 2 number) : isZonePart c :=
    isZonePart_of_isDigit (Text.core_isDigit_of_mem_padded shown)
  have clock (shown : c ∈ (if seconds < 0 then .scalar '-' else .scalar '+') ::
      Text.padded 2 (seconds.natAbs / 3600) ++ .scalar ':' ::
        Text.padded 2 (seconds.natAbs / 60 % 60)) : isZonePart c := by
    rcases List.mem_append.1 shown with hours | minutes
    · rcases List.mem_cons.1 hours with rfl | hours
      · split <;> decide
      · exact digits hours
    · rcases List.mem_cons.1 minutes with rfl | minutes
      · decide
      · exact digits minutes
  rw [Offset.clockText] at written
  split at written
  · exact clock written
  · rcases List.mem_append.1 written with early | late
    · exact clock early
    · rcases List.mem_cons.1 late with rfl | late
      · decide
      · exact digits late

/-- An abbreviation consists of characters by which one can go on. -/
theorem isZonePart_of_mem_abbreviation (named : offset.IsNamed) {c : CodePoint}
    (written : c ∈ offset.abbreviation) : isZonePart c := by
  cases named with
  | letters _ each => exact isZonePart_of_isAlpha (each c written)
  | number numeric =>
      obtain ⟨sign, digits, shape, signed, _, all_digits⟩ := numeric
      rw [shape] at written
      rcases List.mem_cons.1 written with rfl | digit
      · rcases signed with rfl | rfl <;> decide
      · exact isZonePart_of_isDigit (all_digits c digit)
  | fixed same =>
      have universal : ∀ c ∈ "UTC".text, isZonePart c := List.all_eq_true.1 rfl
      rw [same, Offset.plainAbbreviation] at written
      split at written
      · exact universal c written
      · rcases List.mem_append.1 written with early | late
        · exact universal c early
        · exact isZonePart_of_mem_clockText late

/-- An abbreviation that is no number starts with a letter. -/
theorem isZoneStart_abbreviation (named : offset.IsNamed) (worded : ¬ offset.IsNumeric) :
    ∃ head tail, offset.abbreviation = head :: tail ∧ isZoneStart head := by
  cases named with
  | letters nonempty each =>
      obtain ⟨head, tail, shape⟩ := List.exists_cons_of_ne_nil nonempty
      refine ⟨head, tail, shape, each head ?_⟩
      rw [shape]
      exact List.mem_cons_self ..
  | number numeric => exact absurd numeric worded
  | fixed same =>
      rw [same, Offset.plainAbbreviation]
      split
      · exact ⟨'U', _, rfl, rfl⟩
      · exact ⟨'U', _, rfl, rfl⟩

end Abbreviations

section Taking

/-- Whether a piece can be read from exactly the text shown, whatever follows. -/
def Piece.Takes (piece : Piece) (shown : Text) : Prop :=
  ∀ rest, ∃ fields, (fields, rest) ∈ piece.readings (shown ++ rest)

/-- Every count between the bounds is tried. -/
theorem mem_downFrom {most least count : Nat} (enough : least ≤ count) (fits : count ≤ most) :
    count ∈ downFrom most least :=
  List.mem_map.2 ⟨most - count, List.mem_range.2 (by omega), by omega⟩

theorem Piece.takes_literal (c : CodePoint) : (Piece.literal c).Takes [c] := by
  intro rest
  refine ⟨[], ?_⟩
  simp [readings]

/-- The abbreviation of a zone is read up to its end if it starts with a letter. -/
theorem Piece.takes_zoneName {head : CodePoint} {tail : Text} (start : isZoneStart head)
    (parts : ∀ c ∈ tail, isZonePart c) : Piece.zoneName.Takes (head :: tail) := by
  intro rest
  have run : tail.length ≤ ((tail ++ rest).takeWhile isZonePart).length := by
    rw [List.takeWhile_append_of_pos parts, List.length_append]
    exact Nat.le_add_right _ _
  refine ⟨[], ?_⟩
  rw [List.cons_append, readings, if_pos start, restsBehind_eq, List.append_nil]
  refine List.mem_map.2 ⟨rest, List.mem_map.2 ⟨_, mem_downFrom (Nat.zero_le _) run, ?_⟩, rfl⟩
  exact List.drop_left

/-- An offset is read up to its end, with its seconds or without, even if digits follow. -/
theorem Piece.takes_offset (zulu : Bool) {seconds : Int} (within_day : seconds.natAbs < 86400) :
    (Piece.offset zulu).Takes (plainOffsetText seconds) := by
  intro rest
  have width := length_offsetDigits within_day
  have all_digits : ∀ c ∈ offsetDigits seconds.natAbs, Text.isDigit c :=
    fun c written => isDigit_of_mem_offsetDigits written
  have fits : (offsetDigits seconds.natAbs).length ≤ 6 := by
    rw [width]
    split <;> omega
  have run := @runLength_append rest Text.isDigit 6 (offsetDigits seconds.natAbs) all_digits fits
  have at_most := runLength_le Text.isDigit 6 (offsetDigits seconds.natAbs ++ rest)
  have counted : (offsetDigits seconds.natAbs).length + 1 ∈
      (if runLength Text.isDigit 6 (offsetDigits seconds.natAbs ++ rest) = 6 then [7] else []) ++
        if 4 ≤ runLength Text.isDigit 6 (offsetDigits seconds.natAbs ++ rest) then [5] else [] := by
    split at width
    · rw [width] at run ⊢
      rw [if_pos (show 4 ≤ _ by omega)]
      exact List.mem_append_right _ (List.mem_singleton.2 rfl)
    · rw [width] at run ⊢
      rw [if_pos (show _ = 6 by omega)]
      exact List.mem_append_left _ (List.mem_singleton.2 rfl)
  rw [plainOffsetText_eq, List.cons_append, readings, if_pos (by simpa using offsetSign_eq seconds),
    offsetReadings, List.drop_succ_cons, List.drop_zero]
  refine ⟨_, List.mem_map.2 ⟨_, counted, Prod.ext rfl ?_⟩⟩
  exact List.drop_left

namespace Directive

/-- What a directive writes can be read by its piece, whatever follows, if the abbreviation of the
offset is no number. -/
theorem takes_write (valid : stamp.Valid) (four : 1000 ≤ stamp.date.year)
    (named : stamp.offset.IsNamed) {kind : Directive}
    (worded : kind = .zoneName → ¬ stamp.offset.IsNumeric) :
    kind.piece.Takes (kind.write stamp.toTimestamp) := by
  by_cases zone : kind = .zoneName
  · subst zone
    obtain ⟨head, tail, shape, start⟩ := isZoneStart_abbreviation named (worded rfl)
    have written : write stamp.toTimestamp .zoneName = head :: tail := shape
    rw [written]
    refine Piece.takes_zoneName start fun c later => isZonePart_of_mem_abbreviation named ?_
    rw [shape]
    exact List.mem_cons_of_mem _ later
  · by_cases offset : kind = .offset
    · subst offset
      have within_day := stamp.offset.within_day
      exact Piece.takes_offset true (show stamp.offset.seconds.natAbs < 86400 by omega)
    · intro rest
      obtain ⟨more, first⟩ := readings_write valid four zone fun same => absurd same offset
      refine ⟨kind.fieldsOf stamp.toTimestamp, ?_⟩
      rw [first]
      exact List.mem_cons_self ..

end Directive

/-- Pieces that can be read from texts can be read from one text behind the other. -/
theorem isSome_readPieces {shown : Item → Text}
    (each : ∀ item ∈ items, (Pattern.itemPiece item).Takes (shown item)) (rest : Text) :
    (readPieces (items.map Pattern.itemPiece) (items.flatMap shown ++ rest)).isSome := by
  induction items with
  | nil => rfl
  | cons item others ih =>
      have behind := ih fun other member => each other (List.mem_cons_of_mem _ member)
      obtain ⟨fields, taken⟩ := each item (List.mem_cons_self ..) (others.flatMap shown ++ rest)
      rw [List.map_cons, List.flatMap_cons, List.append_assoc, readPieces,
        List.findSome?_isSome_iff]
      refine ⟨_, taken, ?_⟩
      rwa [Option.isSome_map]

end Taking

section Lacking

/-- Whether a character is a letter of a word in any case. -/
def isLetter (c : CodePoint) : Bool :=
  c.isAlpha || c = 'ſ' || c = 'ı' || c = 'İ'

/-- A character that differs from a letter in case only is a letter. -/
theorem isLetter_of_sameLetter {letter c : CodePoint} (alpha : letter.isAlpha)
    (same : sameLetter letter c) : isLetter c := by
  simp only [sameLetter, Bool.or_eq_true, Bool.and_eq_true, decide_eq_true_eq] at same
  simp only [isLetter, Bool.or_eq_true, decide_eq_true_eq]
  rcases same with (lower | ⟨_, long⟩) | ⟨_, dotless | dotted⟩
  · rw [← CodePoint.isAlpha_toLower, lower, CodePoint.isAlpha_toLower]
    exact .inl (.inl (.inl alpha))
  · exact .inl (.inl (.inr long))
  · exact .inl (.inr dotless)
  · exact .inr dotted

/-- No digit is a letter. -/
theorem isLetter_of_isDigit {c : CodePoint} (digit : Text.isDigit c) : isLetter c = false := by
  rw [Bool.eq_false_iff]
  intro letter
  simp only [isLetter, Bool.or_eq_true, decide_eq_true_eq] at letter
  rcases letter with ((alpha | rfl) | rfl) | rfl
  · have small := CodePoint.isAlpha_iff_toNat.1 alpha
    rcases Text.isDigit_or_large digit with ascii | large
    · have := CodePoint.isDigit_iff_toNat.1 ascii
      omega
    · omega
  · exact absurd digit (by decide)
  · exact absurd digit (by decide)
  · exact absurd digit (by decide)

/-- The letters of the shortest of some words. -/
def leastLength (words : List Text) : Nat :=
  (words.map List.length).min?.getD 0

/-- How many letters each reading of a piece takes at least. -/
def Piece.leastLetters : Piece → Nat
  | .literal c => if isLetter c then 1 else 0
  | .word _ words => leastLength words
  | .zoneName => 1
  | _ => 0

/-- A word takes as many letters as it has. -/
theorem countP_of_afterWord? {word text rest : Text} (alpha : ∀ c ∈ word, c.isAlpha)
    (found : afterWord? word text = some rest) :
    word.length + rest.countP isLetter = text.countP isLetter := by
  induction word generalizing text with
  | nil =>
      cases found
      exact Nat.zero_add _
  | cons letter letters ih =>
      cases text with
      | nil => cases found
      | cons c others =>
          rw [afterWord?] at found
          split at found
          next same =>
            have counted := ih (fun later member => alpha later (List.mem_cons_of_mem _ member))
              found
            have inside := isLetter_of_sameLetter (alpha letter (List.mem_cons_self ..)) same
            rw [List.countP_cons, if_pos inside, ← counted, List.length_cons,
              Nat.succ_add_eq_add_succ]
            omega
          · cases found

/-- No word of a list is shorter than its shortest. -/
theorem leastLength_le {words : List Text} {word : Text} (member : word ∈ words) :
    leastLength words ≤ word.length :=
  List.min?_getD_le_of_mem (List.mem_map_of_mem member)

/-- The names of days, of months and of the halves of the day are written with letters only. -/
theorem isAlpha_of_mem_wordLists {words : List Text} {word : Text} (listed : words ∈ wordLists)
    (member : word ∈ words) : ∀ c ∈ word, c.isAlpha := by
  have known :
      (wordLists.all fun words => words.all fun word => word.all CodePoint.isAlpha) = true := by
    decide
  exact List.all_eq_true.1
    (List.all_eq_true.1 (List.all_eq_true.1 known words listed) word member)

/-- The name of a zone is matched by a letter at least. -/
theorem Piece.needs_zoneName : Piece.zoneName.Needs isLetter 1 := by
  intro text reading member
  cases reads_of_mem_readings member with
  | @zoneName head _ _ start left =>
      have fewer := (suffix_of_mem_restsBehind left).sublist.countP_le (p := isLetter)
      have alpha : head.isAlpha = true := start
      have letter : isLetter head := by simp [isLetter, alpha]
      rw [List.countP_cons, if_pos letter, Nat.add_comm]
      exact Nat.add_le_add_right fewer 1

/-- A word is matched by no fewer letters than the shortest of its list has. -/
theorem Piece.needs_word {field : Option Field} {words : List Text} (listed : words ∈ wordLists) :
    (Piece.word field words).Needs isLetter (leastLength words) := by
  intro text reading member
  cases reads_of_mem_readings member with
  | word _ inside behind =>
      rw [← countP_of_afterWord? (isAlpha_of_mem_wordLists listed inside) behind]
      exact Nat.add_le_add_right (leastLength_le inside) _

/-- A piece takes as many letters as the shortest text that it can be read from. -/
theorem Piece.needs_leastLetters {piece : Piece}
    (listed : ∀ field words, piece = .word field words → words ∈ wordLists) :
    piece.Needs isLetter piece.leastLetters := by
  cases piece with
  | literal c =>
      change (Piece.literal c).Needs isLetter (if isLetter c then 1 else 0)
      split
      next inside => exact needs_literal inside
      · exact needs_zero _
  | word field words => exact needs_word (listed field words rfl)
  | zoneName => exact needs_zoneName
  | digits => exact needs_zero _
  | offset => exact needs_zero _
  | fraction => exact needs_zero _

/-- A Sunday in May: no month and no day of the week has a shorter name. -/
def sundayInMay (offset : Offset) : ZonedTimestamp := ⟨⟨2022, 5, 1⟩, .midnight, offset⟩

theorem valid_sundayInMay (offset : Offset) : (sundayInMay offset).Valid :=
  ⟨(by decide : Date.isSupportedYear 2022 = true), (by decide : Date.Valid ⟨2022, 5, 1⟩),
    (by decide : TimeOfDay.Valid .midnight)⟩

/-- Only two directives look at the offset. -/
theorem Directive.write_eq_of_offset {kind : Directive} (moved : kind ≠ .offset)
    (unnamed : kind ≠ .zoneName) (date : Date) (time : TimeOfDay) (offset other : Option Offset) :
    kind.write ⟨date, time, offset⟩ = kind.write ⟨date, time, other⟩ := by
  cases kind
  case offset => exact absurd rfl moved
  case zoneName => exact absurd rfl unnamed
  all_goals rfl

/-- A written offset has no letters. -/
theorem countP_plainOffsetText (seconds : Int) :
    (plainOffsetText seconds).countP isLetter = 0 := by
  rw [List.countP_eq_zero, plainOffsetText_eq]
  intro c written
  rcases List.mem_cons.1 written with rfl | digit
  · unfold offsetSign
    split <;> decide
  · simp [isLetter_of_isDigit (isDigit_of_mem_offsetDigits digit)]

/-- Nor has the name of a zone that is numeric. -/
theorem countP_abbreviation_of_isNumeric (numeric : offset.IsNumeric) :
    offset.abbreviation.countP isLetter = 0 := by
  obtain ⟨sign, digits, shape, signed, _, all_digits⟩ := numeric
  rw [List.countP_eq_zero, shape]
  intro c written
  rcases List.mem_cons.1 written with rfl | digit
  · rcases signed with rfl | rfl <;> decide
  · simp [isLetter_of_isDigit (Text.isDigit_of_core (all_digits c digit))]

/-- On a Sunday in May no item has more letters than its piece takes, and an abbreviation that is a
number has none. -/
theorem countP_writeItem_sundayInMay (numeric : offset.IsNumeric) (item : Item) :
    (Pattern.writeItem (sundayInMay offset).toTimestamp item).countP isLetter +
      (if item == .directive .zoneName then 1 else 0) = (Pattern.itemPiece item).leastLetters := by
  cases item with
  | literal c => exact List.countP_singleton
  | directive kind =>
      by_cases zone : kind = .zoneName
      · subst zone
        exact congrArg (· + 1) (countP_abbreviation_of_isNumeric numeric)
      · have other : ¬ Item.directive kind = .directive .zoneName := fun same =>
          zone (Item.directive.inj same)
        rw [if_neg (by simpa using other), Nat.add_zero]
        by_cases moved : kind = .offset
        · subst moved
          exact countP_plainOffsetText offset.seconds
        · have known : ∀ kind ∈ Directive.all, kind ≠ .offset → kind ≠ .zoneName →
              (kind.write ⟨⟨2022, 5, 1⟩, .midnight, none⟩).countP isLetter =
                kind.piece.leastLetters := by decide
          have listed : kind ∈ Directive.all := by cases kind <;> decide
          exact (congrArg (List.countP isLetter)
            (Directive.write_eq_of_offset moved zone ⟨2022, 5, 1⟩ .midnight (some offset) none)).trans
              (known kind listed moved zone)

/-- A pattern that seeks the letters of an abbreviation does not match what it has written on a
Sunday in May of an offset whose abbreviation is a number. -/
theorem match?_write_of_isNumeric (numeric : offset.IsNumeric)
    (whole : .literal '\x00' ∉ pattern.items) (zoned : .directive .zoneName ∈ pattern.items) :
    (Formatter.custom pattern).match? (pattern.write (sundayInMay offset).toTimestamp) = none := by
  have balance : (pattern.write (sundayInMay offset).toTimestamp).countP isLetter +
      pattern.items.countP (· == .directive .zoneName) =
        (pattern.pieces.map Piece.leastLetters).sum := by
    rw [Pattern.write_eq_flatMap whole, Pattern.pieces]
    induction pattern.items with
    | nil => rfl
    | cons item rest ih =>
        have first := countP_writeItem_sundayInMay numeric item
        rw [List.flatMap_cons, List.countP_append, List.countP_cons, List.map_cons, List.map_cons,
          List.sum_cons]
        omega
  have named : 0 < pattern.items.countP (· == .directive .zoneName) :=
    List.countP_pos_iff.2 ⟨_, zoned, beq_self_eq_true _⟩
  rw [Formatter.match?, Formatter.pieces]
  cases read : readPieces pattern.pieces (pattern.write (sundayInMay offset).toTimestamp) with
  | none => rfl
  | some result =>
      have each : ∀ piece ∈ pattern.pieces, piece.Needs isLetter piece.leastLetters := by
        intro piece member
        obtain ⟨item, _, rfl⟩ := List.mem_map.1 member
        refine Piece.needs_leastLetters fun field words worded => ?_
        cases item with
        | literal c => cases worded
        | directive kind => exact (Directive.write_mem worded (valid_sundayInMay .utc)).1
      have enough := sum_le_countP_of_readPieces each read
      omega

/-- A pattern does not match what it has written without its null character. -/
theorem match?_write_of_null (valid : stamp.Valid) (named : stamp.offset.IsNamed)
    (null : .literal '\x00' ∈ pattern.items) :
    (Formatter.custom pattern).match? (pattern.write stamp.toTimestamp) = none := by
  refine Pattern.match?_of_notMem null fun written => ?_
  obtain ⟨item, member, shown⟩ := List.mem_flatMap.1 written
  cases item with
  | literal c =>
      rw [← List.mem_singleton.1 shown] at member
      simpa using List.all_eq_true.1 List.all_takeWhile _ member
  | directive kind =>
      by_cases zone : kind = .zoneName
      · subst zone
        exact absurd (isZonePart_of_mem_abbreviation named shown) (by decide)
      · exact absurd ((Directive.isKeptText_write valid zone).each _ shown) (by decide)

end Lacking

/-- Whether a pattern writes each timestamp with an offset, in the years of four digits, and matches
what it has written, whatever follows. -/
def Pattern.MatchesOwn (pattern : Pattern) (offset : Offset) : Prop :=
  ∀ (stamp : ZonedTimestamp) (behind : Text), stamp.Valid → 1000 ≤ stamp.date.year →
    stamp.offset = offset →
    ∃ written, (Formatter.custom pattern).format stamp.toTimestamp = .ok written ∧
      ((Formatter.custom pattern).match? (written ++ behind)).isSome

/-- A pattern without surrogates and without the null character matches what it has written, if it
has no abbreviation of the offset or one that is no number. -/
theorem Pattern.matchesOwn_of_whole (named : offset.IsNamed)
    (encodable : (Formatter.custom pattern).IsEncodable)
    (whole : .literal '\x00' ∉ pattern.items)
    (worded : .directive .zoneName ∈ pattern.items → ¬ offset.IsNumeric) :
    pattern.MatchesOwn offset := by
  rintro stamp behind valid four rfl
  refine Formatter.exists_format_iff.2 ⟨encodable, ?_⟩
  rw [Formatter.write, Formatter.match?, Option.isSome_map, write_eq_flatMap whole]
  refine isSome_readPieces (fun item member => ?_) behind
  cases item with
  | literal c => exact Piece.takes_literal c
  | directive kind =>
      apply Directive.takes_write valid four named
      rintro rfl
      exact worded member

/-- Exactly those patterns match what they have written of timestamps with an offset that can be
written by and do not hold the null character, nor an abbreviation that is a number. -/
theorem matchesOwn_iff (named : offset.IsNamed) :
    pattern.MatchesOwn offset ↔ (Formatter.custom pattern).IsEncodable ∧
      .literal '\x00' ∉ pattern.items ∧
      (.directive .zoneName ∈ pattern.items → ¬ offset.IsNumeric) := by
  constructor
  · intro own
    obtain ⟨encodable, matched⟩ := Formatter.exists_format_iff.1
      (own (sundayInMay offset) [] (valid_sundayInMay offset)
        (show (1000 : Int) ≤ 2022 by decide) rfl)
    rw [List.append_nil, Formatter.write] at matched
    have whole : .literal '\x00' ∉ pattern.items := by
      intro null
      rw [match?_write_of_null (valid_sundayInMay offset) named null] at matched
      cases matched
    refine ⟨encodable, whole, fun zoned numeric => ?_⟩
    rw [match?_write_of_isNumeric numeric whole zoned] at matched
    cases matched
  · rintro ⟨encodable, whole, worded⟩
    exact Pattern.matchesOwn_of_whole named encodable whole worded

/-- A pattern of a fraction, an offset and its abbreviation next to each other. -/
def adjacentPattern : Pattern where
  items := [.directive .microsecond, .directive .offset, .directive .zoneName]

/-- The fixed offset of twelve hours and three quarters. -/
def quarterToOne : Offset := ⟨45900, Offset.plainAbbreviation 45900, by decide⟩

theorem isNumeric_minus03 : Zone.SaoPaulo.minus03.IsNumeric :=
  ⟨'-', ['0', '3'], rfl, .inr rfl, List.cons_ne_nil _ _, List.all_eq_true.1 rfl⟩

/-- Digits and letters that follow do not get in the way of a match, but numbers as abbreviations
do. -/
theorem matchesOwn_iff_adjacent :
    quarterToOne.IsNamed ∧ Zone.SaoPaulo.minus03.IsNamed ∧
    ((Formatter.custom adjacentPattern).match? "000060+1245UTC+12:4599Z".text).isSome ∧
    ¬ adjacentPattern.MatchesOwn Zone.SaoPaulo.minus03 := by
  have fixed : quarterToOne.IsNamed := .fixed rfl
  have written : adjacentPattern.write
      (⟨⟨2000, 2, 29⟩, ⟨15, 4, 5, 60⟩, quarterToOne⟩ : ZonedTimestamp).toTimestamp =
        "000060+1245UTC+12:45".text := rfl
  have worded : ¬ quarterToOne.IsNumeric := by
    rintro ⟨sign, digits, shape, signed, _⟩
    obtain ⟨rfl, _⟩ := List.cons.inj shape
    revert signed
    decide
  have own : adjacentPattern.MatchesOwn quarterToOne :=
    (matchesOwn_iff fixed).2 ⟨rfl, by decide, fun _ => worded⟩
  refine ⟨fixed, .number isNumeric_minus03, ?_, fun other => ?_⟩
  · have matched := (Formatter.exists_format_iff.1
      (own ⟨⟨2000, 2, 29⟩, ⟨15, 4, 5, 60⟩, quarterToOne⟩ "99Z".text
        ⟨by decide, by decide, by decide⟩ (by decide) rfl)).2
    rw [Formatter.write, written] at matched
    exact matched
  · exact ((matchesOwn_iff (.number isNumeric_minus03)).1 other).2.2 (by decide)
      isNumeric_minus03

/-- The pattern of an instant and the abbreviation of its offset. -/
def abbreviatedPattern : Pattern where
  items := [.directive .year, .directive .month, .directive .day, .literal '_', .directive .hour,
    .directive .minute, .directive .second, .directive .offset, .literal '_',
    .directive .zoneName]

/-- What the clocks of São Paulo show at the start of 1970. -/
def epochInSaoPaulo : ZonedTimestamp :=
  ⟨⟨1969, 12, 31⟩, ⟨21, 0, 0, 0⟩, Zone.SaoPaulo.minus03⟩

/-- The start of 1970 in São Paulo is written with the abbreviation `-03`, and not matched. -/
theorem numeric_abbreviation_unmatched :
    Pattern.parse "%Y%m%d_%H%M%S%z_%Z".text = .ok abbreviatedPattern ∧
    ZonedTimestamp.ofMillis (.ofTable Zone.SaoPaulo.table) 0 = .ok epochInSaoPaulo ∧
    epochInSaoPaulo.offset.IsNamed ∧
    abbreviatedPattern.write epochInSaoPaulo.toTimestamp = "19691231_210000-0300_-03".text ∧
    (Formatter.custom abbreviatedPattern).match? "19691231_210000-0300_-03".text = none ∧
    ¬ ∀ pattern : Pattern, ∀ offset : Offset, offset.IsNamed → pattern.MatchesOwn offset := by
  have printed : abbreviatedPattern.print = "%Y%m%d_%H%M%S%z_%Z".text := by decide
  have parsed := Pattern.parse_print (show abbreviatedPattern.items ≠ [] by decide)
  rw [printed] at parsed
  have shown : ZonedTimestamp.ofMillis (.ofTable Zone.SaoPaulo.table) 0 = .ok epochInSaoPaulo := by
    decide +kernel
  have named : epochInSaoPaulo.offset.IsNamed := .number isNumeric_minus03
  have written : abbreviatedPattern.write epochInSaoPaulo.toTimestamp =
      "19691231_210000-0300_-03".text := rfl
  have unmatched : (Formatter.custom abbreviatedPattern).match?
      "19691231_210000-0300_-03".text = none := rfl
  refine ⟨parsed, shown, named, written, unmatched, fun own => ?_⟩
  have matched := (Formatter.exists_format_iff.1 (own abbreviatedPattern _ named epochInSaoPaulo []
    ⟨by decide, by decide, by decide⟩ (by decide) rfl)).2
  rw [List.append_nil, Formatter.write, written, unmatched] at matched
  cases matched

end DateFormat
end RecordingName
