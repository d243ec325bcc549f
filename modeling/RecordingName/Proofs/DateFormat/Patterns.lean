import Mathlib.Algebra.Ring.Nat
import RecordingName.Proofs.DateFormat.Telling

/-!
# Reading what a date pattern writes

A pattern reads back what it has written, item by item, by `Pattern.readPieces_items`. So it reads
back all that it conveys of a timestamp: `Pattern.read?_write_append`. If there is a directive for
each part of the timestamp, that is the timestamp itself, by `Pattern.read?_write`. A pattern cannot
read a text that lacks a character for one of its literals, by `Pattern.read?_of_countP_lt`.
-/

namespace RecordingName.DateFormat

namespace Pattern

/-- Every offset among items comes last or has a literal behind it that is no digit. -/
def OffsetsApart (items : List Item) : Prop :=
  ∀ before behind, items = before ++ .directive .offset :: behind →
    behind = [] ∨ ∃ c others, behind = .literal c :: others ∧ Text.isDigit c = false

/-- Whether items that stand behind an offset cannot be taken for a part of it. -/
def endsOffset : List Item → Bool
  | [] => true
  | .literal c :: _ => !Text.isDigit c
  | .directive _ :: _ => false

/-- An offset ends where the pattern does, or where a literal that is no digit follows. -/
theorem endsOffset_iff {items : List Item} :
    endsOffset items ↔
      items = [] ∨ ∃ c others, items = .literal c :: others ∧ Text.isDigit c = false := by
  match items with
  | [] => simp [endsOffset]
  | .literal _ :: _ => simp [endsOffset]
  | .directive _ :: _ => simp [endsOffset]

theorem offsetsApart_cons {item : Item} {rest : List Item} :
    OffsetsApart (item :: rest) ↔
      (item = .directive .offset → endsOffset rest) ∧ OffsetsApart rest := by
  constructor
  · intro offsets
    refine ⟨?_, fun before behind split => offsets (item :: before) behind (congrArg _ split)⟩
    rintro rfl
    exact endsOffset_iff.2 (offsets [] rest rfl)
  · rintro ⟨first, others⟩ before behind split
    cases before with
    | nil =>
        obtain ⟨rfl, rfl⟩ := List.cons.inj split
        exact endsOffset_iff.1 (first rfl)
    | cons other before => exact others before behind (List.cons.inj split).2

instance decidableOffsetsApart : (items : List Item) → Decidable (OffsetsApart items)
  | [] => isTrue fun before _ split => by cases before <;> cases split
  | _ :: rest => haveI := decidableOffsetsApart rest; decidable_of_iff _ offsetsApart_cons.symm

/-- A pattern that tells the date, whose directives can be told apart in what it writes: it has not
the name of the zone, and nothing that could be taken for a part of an offset. -/
structure Unambiguous (pattern : Pattern) : Prop where
  date : pattern.TellsDate
  unnamed : .directive .zoneName ∉ pattern.items
  apart : OffsetsApart pattern.items

/-- A pattern that tells an instant to the second: it has all parts of the date, the time and the
offset, not the name of the zone, and nothing that could be taken for a part of an offset. -/
structure TellsInstant (pattern : Pattern) : Prop where
  holds : ∀ kind ∈ [Directive.year, .month, .day, .hour, .minute, .second, .offset],
    .directive kind ∈ pattern.items
  unnamed : .directive .zoneName ∉ pattern.items
  apart : OffsetsApart pattern.items

/-- What a pattern tells of a timestamp that it has all parts of: microseconds count only if it
has them, and the abbreviation of the offset is forgotten. -/
def told (pattern : Pattern) (stamp : ZonedTimestamp) : Timestamp where
  date := stamp.date
  time := { stamp.time with
    microsecond := if .directive .microsecond ∈ pattern.items then stamp.time.microsecond else 0 }
  offset := some (plainOffset stamp.offset)

variable {pattern : Pattern} {stamp : ZonedTimestamp}

/-- A pattern that tells an instant tells the date without ambiguity. -/
theorem TellsInstant.unambiguous (tells : pattern.TellsInstant) : pattern.Unambiguous where
  date := ⟨.inl (tells.holds _ (by decide)),
    .inr ⟨tells.holds _ (by decide), .inl (tells.holds _ (by decide))⟩⟩
  unnamed := tells.unnamed
  apart := tells.apart

/-- A pattern that tells an instant conveys all parts of it. -/
theorem TellsInstant.conveyed (tells : pattern.TellsInstant) (stamp : ZonedTimestamp) :
    pattern.conveyed stamp = pattern.told stamp := by
  have hour : pattern.TellsHour := .inl (tells.holds _ (by decide))
  have minute : .directive .minute ∈ pattern.items := tells.holds _ (by decide)
  have second : .directive .second ∈ pattern.items := tells.holds _ (by decide)
  have offset : .directive .offset ∈ pattern.items := tells.holds _ (by decide)
  rw [Pattern.conveyed, if_pos hour, part, if_pos minute, part, if_pos second, if_pos offset]
  rfl

/-- A pattern that tells an instant tells the full year. -/
theorem TellsInstant.yearInReach (tells : pattern.TellsInstant) {date : Date}
    (four : 1000 ≤ date.year) : pattern.YearInReach date :=
  ⟨four, fun absent => absurd (tells.holds _ (by decide)) absent⟩

/-- Items are read back from what they have written, one by one. -/
theorem readPieces_items {items : List Item} (unnamed : .directive .zoneName ∉ items)
    (offsets : OffsetsApart items) (valid : stamp.Valid) (four : 1000 ≤ stamp.date.year)
    {text : Text} (apart : Text.StartsApart text) :
    readPieces (items.map itemPiece) (items.flatMap (writeItem stamp.toTimestamp) ++ text) =
      some (items.flatMap (itemFields stamp.toTimestamp), text) := by
  induction items with
  | nil => rfl
  | cons item rest ih =>
      obtain ⟨follows, rest_apart⟩ := offsetsApart_cons.1 offsets
      have read_rest := ih (fun later => unnamed (List.mem_cons_of_mem _ later)) rest_apart
      rw [List.map_cons, List.flatMap_cons, List.flatMap_cons, List.append_assoc]
      cases item with
      | literal c => exact (readPieces_literal c _ _).trans read_rest
      | directive kind =>
          have known : kind ≠ .zoneName := by
            rintro rfl
            exact unnamed (List.mem_cons_self ..)
          have behind (offset : kind = .offset) :
              Text.StartsApart (rest.flatMap (writeItem stamp.toTimestamp) ++ text) := by
            rcases endsOffset_iff.1 (follows (congrArg _ offset)) with
              rfl | ⟨c, others, rfl, other⟩
            · exact apart
            · exact .cons other _
          obtain ⟨more, first⟩ := Directive.readings_write valid four known behind
          exact readPieces_of_first_reading first read_rest

/-- A pattern without the null character writes all of its items. -/
theorem write_eq_flatMap (whole : .literal '\x00' ∉ pattern.items) (stamp : Timestamp) :
    pattern.write stamp = pattern.items.flatMap (writeItem stamp) := by
  have passes : ∀ item ∈ pattern.items, (item != .literal '\x00') = true := by
    intro item member
    refine bne_iff_ne.2 ?_
    rintro rfl
    exact whole member
  have all := @List.takeWhile_append_of_pos _ (· != .literal '\x00') pattern.items [] passes
  rw [List.append_nil, List.takeWhile_nil, List.append_nil] at all
  rw [write, all]

/-- A pattern reads back what it conveys of a timestamp from what it has written of it, whatever
follows that starts with no digit. -/
theorem read?_write_append (unambiguous : pattern.Unambiguous)
    (whole : .literal '\x00' ∉ pattern.items) (valid : stamp.Valid)
    (reaches : pattern.YearInReach stamp.date) {text : Text} (apart : Text.StartsApart text) :
    (Formatter.custom pattern).read? (pattern.write stamp.toTimestamp ++ text) =
      some (pattern.conveyed stamp) := by
  have read := readPieces_items unambiguous.unnamed unambiguous.apart valid reaches.four apart
  rw [Formatter.read?, Formatter.match?, Formatter.pieces, pieces, write_eq_flatMap whole, read]
  exact timestamp?_fieldsOf unambiguous.date valid reaches

/-- A pattern that tells an instant reads it back from what it has written, whatever follows that
starts with no digit. -/
theorem read?_write (tells : pattern.TellsInstant) (whole : .literal '\x00' ∉ pattern.items)
    (valid : stamp.Valid) (four : 1000 ≤ stamp.date.year) {text : Text}
    (apart : Text.StartsApart text) :
    (Formatter.custom pattern).read? (pattern.write stamp.toTimestamp ++ text) =
      some (pattern.told stamp) := by
  rw [← tells.conveyed]
  exact read?_write_append tells.unambiguous whole valid (tells.yearInReach four) apart

/-- What an item writes is not empty, and a filename keeps what it has from directives. -/
theorem isKeptText_writeItem {kind : Directive} {items : List Item}
    (unnamed : .directive .zoneName ∉ items) (valid : stamp.Valid)
    (member : .directive kind ∈ items) :
    IsKeptText (writeItem stamp.toTimestamp (.directive kind)) := by
  refine Directive.isKeptText_write valid ?_
  rintro rfl
  exact unnamed member

/-- What no filename keeps is written only by literals. -/
theorem notMem_write (unnamed : .directive .zoneName ∉ pattern.items) (valid : stamp.Valid)
    {c : CodePoint} (foreign : ¬ IsKept c)
    (absent : .literal c ∉ pattern.items.takeWhile (· != .literal '\x00')) :
    c ∉ pattern.write stamp.toTimestamp := by
  intro written
  obtain ⟨item, member, shown⟩ := List.mem_flatMap.1 written
  cases item with
  | literal other =>
      rw [List.mem_singleton.1 shown] at absent
      exact absent member
  | directive kind =>
      have kept := isKeptText_writeItem unnamed valid ((List.takeWhile_sublist _).subset member)
      exact foreign (kept.each c shown)

end Pattern

section Counting

variable {class_ : CodePoint → Bool}

/-- Elements are counted one by one. -/
theorem countP_eq_sum_map {α : Type} (counted : α → Bool) (list : List α) :
    list.countP counted = (list.map fun element => if counted element then 1 else 0).sum := by
  induction list with
  | nil => rfl
  | cons first rest ih => rw [List.countP_cons, ih, List.map_cons, List.sum_cons, Nat.add_comm]

/-- Whether a piece is a literal of a class. -/
def Piece.isLiteralIn (class_ : CodePoint → Bool) : Piece → Bool
  | .literal c => class_ c
  | _ => false

/-- Whether an item is a literal of a class. -/
def Item.isLiteralIn (class_ : CodePoint → Bool) : Item → Bool
  | .literal c => class_ c
  | .directive _ => false

/-- Reading a word leaves an ending of the text. -/
theorem suffix_of_afterWord? {word text rest : Text} (found : afterWord? word text = some rest) :
    rest <:+ text := by
  induction word generalizing text with
  | nil =>
      cases found
      exact List.suffix_rfl
  | cons letter letters ih =>
      cases text with
      | nil => cases found
      | cons c others =>
          rw [afterWord?] at found
          split at found
          · exact (ih found).trans (List.suffix_cons c others)
          · cases found

/-- Reading a run of characters leaves an ending of the text. -/
theorem suffix_of_mem_restsBehind {text behind : Text}
    (left : behind ∈ restsBehind class_ text []) :
    behind <:+ text := by
  rw [restsBehind_eq, List.append_nil] at left
  obtain ⟨count, _, rfl⟩ := List.mem_map.1 left
  exact List.drop_suffix count text

/-- A piece is read from the start of a text and leaves the rest. -/
theorem suffix_of_mem_readings {piece : Piece} {text : Text} {reading : Fields × Text}
    (member : reading ∈ piece.readings text) : reading.2 <:+ text := by
  cases Piece.reads_of_mem_readings member with
  | literal c rest => exact List.suffix_cons c rest
  | digits field least most count => exact List.drop_suffix count text
  | word field listed found => exact suffix_of_afterWord? found
  | offset zulu count => exact List.drop_suffix count text
  | zoneName start left => exact (suffix_of_mem_restsBehind left).trans (List.suffix_cons ..)
  | fraction count rest => exact (List.drop_suffix count rest).trans (List.suffix_cons ..)
  | noFraction => exact List.suffix_rfl

/-- Whether each reading of a piece takes at least so many characters of a class. -/
def Piece.Needs (class_ : CodePoint → Bool) (piece : Piece) (count : Nat) : Prop :=
  ∀ text, ∀ reading ∈ piece.readings text, count + reading.2.countP class_ ≤ text.countP class_

theorem Piece.needs_zero (piece : Piece) : piece.Needs class_ 0 := by
  intro text reading member
  rw [Nat.zero_add]
  exact (suffix_of_mem_readings member).sublist.countP_le

/-- A literal is read from a character of its own. -/
theorem Piece.needs_literal {c : CodePoint} (inside : class_ c = true) :
    (Piece.literal c).Needs class_ 1 := by
  intro text reading member
  cases reads_of_mem_readings member with
  | literal _ rest =>
      rw [List.countP_cons, if_pos inside]
      exact Nat.le_of_eq (Nat.add_comm ..)

/-- A text has as many characters of a class as the pieces that it is read by need together. -/
theorem sum_le_countP_of_readPieces {needed : Piece → Nat} {pieces : List Piece} {text : Text}
    {result : Fields × Text} (each : ∀ piece ∈ pieces, piece.Needs class_ (needed piece))
    (read : readPieces pieces text = some result) :
    (pieces.map needed).sum ≤ text.countP class_ := by
  induction pieces generalizing text result with
  | nil => exact Nat.zero_le _
  | cons piece others ih =>
      obtain ⟨reading, member, carried⟩ := List.exists_of_findSome?_eq_some read
      obtain ⟨behind, read_behind, _⟩ := Option.map_eq_some_iff.1 carried
      have first := each piece (List.mem_cons_self ..) text reading member
      have later := ih (fun other member => each other (List.mem_cons_of_mem _ member)) read_behind
      rw [List.map_cons, List.sum_cons]
      exact Nat.le_trans (Nat.add_le_add_left later _) first

/-- A text has at least as many characters of a class as there are literals of it among the pieces
that it is read by. -/
theorem countP_le_of_readPieces {pieces : List Piece} {text : Text} {result : Fields × Text}
    (read : readPieces pieces text = some result) :
    pieces.countP (Piece.isLiteralIn class_) ≤ text.countP class_ := by
  have each : ∀ piece ∈ pieces,
      piece.Needs class_ (if Piece.isLiteralIn class_ piece then 1 else 0) := by
    intro piece _
    cases piece with
    | literal c =>
        by_cases inside : class_ c = true
        · rw [if_pos (show Piece.isLiteralIn class_ (.literal c) = true from inside)]
          exact Piece.needs_literal inside
        · rw [if_neg (show ¬ Piece.isLiteralIn class_ (.literal c) = true from inside)]
          exact Piece.needs_zero _
    | digits => exact Piece.needs_zero _
    | word => exact Piece.needs_zero _
    | offset => exact Piece.needs_zero _
    | zoneName => exact Piece.needs_zero _
    | fraction => exact Piece.needs_zero _
  rw [countP_eq_sum_map]
  exact sum_le_countP_of_readPieces each read

namespace Pattern

variable {pattern : Pattern} {stamp : ZonedTimestamp}

/-- The matcher asks for the literal characters that the pattern writes. -/
theorem countP_pieces (pattern : Pattern) :
    pattern.pieces.countP (Piece.isLiteralIn class_) =
      pattern.items.countP (Item.isLiteralIn class_) := by
  rw [pieces, List.countP_map]
  refine List.countP_congr fun item _ => ?_
  cases item with
  | literal c => rfl
  | directive kind => cases kind <;> rfl

/-- A text that lacks characters for the literals of a pattern does not match it. -/
theorem match?_of_countP_lt {text : Text}
    (fewer : text.countP class_ < pattern.items.countP (Item.isLiteralIn class_)) :
    (Formatter.custom pattern).match? text = none := by
  rw [Formatter.match?, Formatter.pieces]
  cases read : readPieces pattern.pieces text with
  | none => rfl
  | some result =>
      have enough := @countP_le_of_readPieces class_ _ _ _ read
      rw [countP_pieces] at enough
      exact absurd fewer (Nat.not_lt.2 enough)

/-- A text without the character of a literal does not match its pattern. -/
theorem match?_of_notMem {c : CodePoint} {text : Text} (sought : .literal c ∈ pattern.items)
    (absent : c ∉ text) : (Formatter.custom pattern).match? text = none := by
  refine @match?_of_countP_lt (· == c) pattern text ?_
  rw [show text.countP (· == c) = 0 from List.count_eq_zero.2 absent]
  exact List.countP_pos_iff.2 ⟨_, sought, beq_self_eq_true c⟩

/-- A text that lacks characters for the literals of a pattern is not read by it. -/
theorem read?_of_countP_lt {text : Text}
    (fewer : text.countP class_ < pattern.items.countP (Item.isLiteralIn class_)) :
    (Formatter.custom pattern).read? text = none := by
  rw [Formatter.read?, match?_of_countP_lt fewer]
  rfl

/-- Characters that no directive writes come from literals. -/
theorem countP_flatMap_writeItem {items : List Item} (unnamed : .directive .zoneName ∉ items)
    (valid : stamp.Valid) (foreign : ∀ c, IsKept c → class_ c = false) :
    (items.flatMap (writeItem stamp.toTimestamp)).countP class_ =
      items.countP (Item.isLiteralIn class_) := by
  induction items with
  | nil => rfl
  | cons item rest ih =>
      rw [List.flatMap_cons, List.countP_append, List.countP_cons,
        ih fun later => unnamed (List.mem_cons_of_mem _ later), Nat.add_comm]
      congr 1
      cases item with
      | literal c =>
          rw [writeItem, List.countP_singleton]
          rfl
      | directive kind =>
          have kept := (isKeptText_writeItem unnamed valid (List.mem_cons_self ..)).each
          refine List.countP_eq_zero.2 fun c written => ?_
          simp [foreign c (kept c written)]

end Pattern

end Counting

end RecordingName.DateFormat
