import RecordingName.Proofs.DateFormat.Matching
import RecordingName.Proofs.Generator.BehindLiteral
import RecordingName.Proofs.Generator.Hiding
import RecordingName.Proofs.Text.Occurrences

/-!
# Where a generator searches for dates

A date that does not stand first in a template is searched for behind the occurrences of the
literal before it, wherever they are in a name. The search goes on behind each occurrence, so that
it passes over those that overlap one before them: `Reaches.readTimestamp_eq_searched`.
`missesNothing_iff` says that reading finds the first timestamp behind any occurrence, for all
generators, exactly if the literals do not overlap themselves.
-/

namespace RecordingName

open DateFormat Naming Template

/-- The places in a name behind the occurrences of the literal of a location, from left to right,
where `find` tells the occurrences of a literal in a text. There is no place for a location behind
another reference, and no more than one at the start. -/
def Location.places (find : Text → Text → List Nat) (name : Text) : Location → List Nat
  | .arbitrary => []
  | .after literal atStart =>
      (if atStart then (find literal name).take 1 else find literal name).map (· + literal.length)

namespace Generator

/-- The first timestamp that is found at the places of the date locations, in order. -/
def firstAt (find : Text → Text → List Nat) (name : Text) (generator : Generator) :
    Option Timestamp :=
  generator.publication.template.dateLocations.findSome? fun location =>
    (location.places find name).findSome? fun place =>
      generator.recording.session.formatter.read? (name.drop place)

variable {generator : Generator} {find : Text → Text → List Nat} {name : Text}

/-- Nothing is found exactly if there is a timestamp at none of the places. -/
theorem firstAt_eq_none_iff : generator.firstAt find name = none ↔
    ∀ location ∈ generator.publication.template.dateLocations,
      ∀ place ∈ location.places find name,
        generator.recording.session.formatter.read? (name.drop place) = none := by
  simp only [firstAt, List.findSome?_eq_none_iff]

end Generator

section Locations

variable {location here : Location} {literal name : Text}

/-- What follows the occurrences that a search finds is what may start with a date. -/
theorem Generator.candidates_eq (proper : location ≠ .after [] false) (name : Text) :
    candidates name location = (location.places Text.searched name).map name.drop := by
  cases location with
  | arbitrary => rfl
  | after literal atStart =>
      by_cases empty : literal = []
      · cases atStart with
        | false => exact absurd (by rw [empty]) proper
        | true =>
            obtain ⟨others, shape⟩ := Text.occurrences_of_prefix (@List.nil_prefix _ name)
            rw [candidates, if_pos empty, Location.places, if_pos rfl, empty, Text.searched, shape]
            rfl
      · rw [candidates, if_neg empty, Location.places, Text.afterEach_eq_map_searched empty,
          List.map_map]
        split
        · rw [← List.map_take]
          rfl
        · rfl

/-- A search misses no place behind a literal that does not overlap itself. -/
theorem Location.places_searched
    (apart : ∀ literal, location = .after literal false → ¬ Text.OverlapsItself literal)
    (name : Text) : location.places Text.searched name = location.places Text.occurrences name := by
  cases location with
  | arbitrary => rfl
  | after literal atStart =>
      cases atStart with
      | true =>
          rw [places, places, if_pos rfl, if_pos rfl, Text.take_one_searched]
      | false =>
          rw [places, places, Text.searched_eq_occurrences (apart literal rfl)]

/-- The literal of a location that is not at the start is one of the template. -/
theorem Template.literal_mem_of_mem_locationsFrom {variableName : Text} {atStart : Bool}
    {segments : List Segment}
    (member : .after literal false ∈ locationsFrom variableName here atStart segments) :
    here = .after literal false ∨ .literal literal ∈ segments := by
  induction segments generalizing here atStart with
  | nil => cases member
  | cons segment rest ih =>
      cases segment with
      | literal text =>
          rcases ih member with first | later
          · cases first
            exact .inr (List.mem_cons_self ..)
          · exact .inr (List.mem_cons_of_mem _ later)
      | reference target =>
          rw [locationsFrom] at member
          split at member
          · rcases List.mem_cons.1 member with first | later
            · exact .inl first.symm
            · rcases ih later with first | behind
              · cases first
              · exact .inr (List.mem_cons_of_mem _ behind)
          · rcases ih member with first | behind
            · cases first
            · exact .inr (List.mem_cons_of_mem _ behind)

end Locations

variable {origin : Origin} {generator : Generator} {literal : Text}

/-- The chosen template and the standard one are in normal form. -/
theorem isNormal_chosen (templateText : Option Text) :
    IsNormal (TemplateChoice.load templateText).1.template.segments := by
  have standard : IsNormal Template.standard.segments := ⟨by decide, by decide⟩
  cases templateText with
  | none => exact standard
  | some text =>
      rw [TemplateChoice.load]
      cases read : Template.parse text with
      | error error => exact standard
      | ok template => exact isNormal_of_parse read

/-- The dates of what a generator shows that do not stand first are behind literals with something
in them. -/
theorem Reaches.proper_dateLocations (reached : Reaches origin generator) :
    ∀ location ∈ generator.publication.template.dateLocations, location ≠ .after [] false := by
  rintro location member rfl
  have normal : IsNormal generator.publication.template.segments := by
    rcases reached.publication_template with chosen | standard
    · rw [chosen, Origin.recording_choice]
      exact isNormal_chosen _
    · rw [standard]
      exact isNormal_chosen none
  rcases literal_mem_of_mem_locationsFrom member with first | empty
  · cases first
  · exact normal.literal_nil_notMem empty

/-- Functions that agree on the elements of a list find the same there. -/
theorem findSome?_congr {α β : Type} {first second : α → Option β} {items : List α}
    (same : ∀ item ∈ items, first item = second item) :
    items.findSome? first = items.findSome? second := by
  induction items with
  | nil => rfl
  | cons item rest ih =>
      rw [List.findSome?_cons, List.findSome?_cons, same item (List.mem_cons_self ..),
        ih fun other later => same other (List.mem_cons_of_mem _ later)]

/-- Whatever has happened to a generator, it reads the first timestamp behind the occurrences that
a search finds. -/
theorem Reaches.readTimestamp_eq_searched (reached : Reaches origin generator) (name : Text) :
    generator.readTimestamp name = generator.firstAt Text.searched name := by
  rw [Generator.readTimestamp, reached.located]
  refine findSome?_congr fun location member => ?_
  rw [Generator.readAt, Generator.candidates_eq (reached.proper_dateLocations location member),
    List.findSome?_map]
  rfl

/-- No generator whose inner dates stand behind admitted literals misses a timestamp: it reads the
first one that is found at its date locations in order and, at each of them, behind the
occurrences of the literal from left to right, whether they overlap or not; and none only if there
is none behind any of them. -/
def MissesNothing (admitted : Text → Prop) : Prop :=
  ∀ origin generator, Reaches origin generator →
    (∀ literal, .after literal false ∈ generator.publication.template.dateLocations →
      admitted literal) →
    ∀ name, generator.readTimestamp name = generator.firstAt Text.occurrences name ∧
      (generator.readTimestamp name = none ↔
        ∀ location ∈ generator.publication.template.dateLocations,
          ∀ place ∈ location.places Text.occurrences name,
            generator.recording.session.formatter.read? (name.drop place) = none)

/-- With literals that do not overlap themselves, no timestamp is missed. -/
theorem missesNothing_of_apart {admitted : Text → Prop}
    (apart : ∀ literal, admitted literal → ¬ Text.OverlapsItself literal) :
    MissesNothing admitted := by
  intro origin generator reached inner name
  have first : generator.readTimestamp name = generator.firstAt Text.occurrences name := by
    rw [reached.readTimestamp_eq_searched]
    refine findSome?_congr fun location member => ?_
    rw [Location.places_searched]
    rintro literal rfl
    exact apart literal (inner literal member)
  refine ⟨first, ?_⟩
  rw [first]
  exact Generator.firstAt_eq_none_iff

section Lost

/-- The segments of a template that is a number, a literal and a date. -/
def separatedDate (literal : Text) (argument : Option Text) : List Segment :=
  [.reference numberReference, .literal literal, .reference ⟨Variable.date.name, argument⟩]

/-- A call at the start of the epoch from a number. -/
def Origin.separated (number literal : Text) (argument : Option Text) : Origin :=
  { Origin.ofNumber number with
    templateText := some (Template.print ⟨separatedDate literal argument⟩) }

/-- The template is read as it was printed. -/
theorem choice_separated (number : Text) (nonempty : literal ≠ []) (argument : Option Text) :
    (Origin.separated number literal argument).recording.choice =
      .custom ⟨separatedDate literal argument⟩ := by
  have stripped : Text.strip Variable.date.name = Variable.date.name := by decide
  have named : Variable.date.name ≠ [] := by decide
  have date : IsNormal [.reference ⟨Variable.date.name, argument⟩] :=
    IsNormal.nil.reference_of_stripped stripped named
  have behind := date.joinLiteral literal
  obtain ⟨head, others, rfl⟩ := List.exists_cons_of_ne_nil nonempty
  have known : IsNormal (separatedDate (head :: others) argument) :=
    behind.reference_of_stripped (by decide) (by decide)
  rw [Origin.recording_choice, Origin.separated, TemplateChoice.load]
  simp only [known.parse_print]

theorem parties_separated (number literal : Text) (argument : Option Text) :
    ((Origin.separated number literal argument).recording.context false).parties =
      [(Origin.ofNumber number).parent] := rfl

/-- Its only date stands behind the literal, which is not at the start. -/
theorem dateLocations_separated (literal : Text) (argument : Option Text) :
    dateLocations ⟨separatedDate literal argument⟩ = [.after literal false] := by
  rw [dateLocations, locations, separatedDate, locationsFrom, if_neg (by decide), locationsFrom,
    locationsFrom, if_pos rfl]
  rfl

/-- The filename is the number, the literal and the start of the epoch in the format that the date
chooses, if that can be written. -/
theorem exists_start_separated {number : Text} (called : number ≠ []) (nonempty : literal ≠ [])
    {argument : Option Text} (encodable : (chosenFormatter .standard argument).IsEncodable) :
    ∃ generator, (Origin.separated number literal argument).start = .ok generator ∧
      generator.publication.template = ⟨separatedDate literal argument⟩ ∧
      generator.recording.session.formatter = chosenFormatter .standard argument ∧
      generator.publication.value = Filename.sanitize (number ++
        (literal ++ (chosenFormatter .standard argument).write epochStart)) := by
  let recording := (Origin.separated number literal argument).recording
  have joined := Origin.joinDistinct_ofNumber called false
  have alone : ((Origin.ofNumber number).recording.context false).parties =
      [(Origin.ofNumber number).parent] := rfl
  rw [alone, ← parties_separated number literal argument] at joined
  obtain ⟨middle, formatter, answered⟩ : ∃ middle : Session, middle.formatter = .standard ∧
      runOn (resolve recording.zone (recording.context false) numberReference) recording.session =
        (.ok (some number), middle) :=
    ⟨_, rfl, runOn_resolveNumber called joined recording.session⟩
  have front : runOn (renderSegments (resolve recording.zone (recording.context false))
      [.reference numberReference, .literal literal]) recording.session =
        (.ok [(.reference numberReference, number), (.literal literal, literal)], middle) :=
    runOn_render_reference.2 ⟨_, _, _, answered, rfl, rfl⟩
  obtain ⟨generator, started, shown, value, _, active⟩ := Origin.start_of_dated ofMillis_zero front
    (choice_separated number nonempty argument) (by rwa [formatter])
  rw [formatter] at value active
  refine ⟨generator, started, shown, active, value.trans ?_⟩
  simp

/-- The pattern of a day with a mark in front. -/
def markedDay (mark : CodePoint) : Pattern :=
  ⟨[.literal mark, .directive .year, .directive .month, .directive .day]⟩

/-- A day behind its mark is read. -/
theorem read?_markedDay (mark : CodePoint) :
    ∃ stamp, (Formatter.custom (markedDay mark)).read? (mark :: "20000101".text) = some stamp := by
  have pieces : (Formatter.custom (markedDay mark)).pieces =
      .literal mark :: (Formatter.custom ⟨[.directive .year, .directive .month,
        .directive .day]⟩).pieces := rfl
  rw [Formatter.read?, Formatter.match?, pieces, readPieces_literal]
  exact ⟨⟨⟨2000, 1, 1⟩, .midnight, none⟩, by decide⟩

/-- Nothing is read where the mark does not stand. -/
theorem read?_markedDay_of_head {mark : CodePoint} {text : Text}
    (unmarked : text.head? ≠ some mark) :
    (Formatter.custom (markedDay mark)).read? text = none := by
  have without : (Piece.literal mark).readings text = [] := by
    cases text with
    | nil => rfl
    | cons head rest => exact if_neg fun same => unmarked (congrArg some same)
  rw [Formatter.read?, Formatter.match?]
  exact congrArg (fun found => (found.map (·.1)).bind Fields.timestamp?)
    (readPieces_of_no_reading without)

/-- A literal that overlaps itself can stand twice in front of a marked day so that the search finds
it the first time, and goes on behind the mark. -/
theorem exists_passed_over (overlaps : Text.OverlapsItself literal) :
    ∃ name mark, (Formatter.custom (markedDay mark)).IsEncodable ∧
      (∃ place ∈ (Location.after literal false).places Text.occurrences name,
        name.drop place = mark :: "20000101".text) ∧
      ∀ place ∈ (Location.after literal false).places Text.searched name,
        (name.drop place).head? ≠ some mark := by
  obtain ⟨front, tail, tail_nonempty, tail_short, twice⟩ := overlaps.exists_append
  obtain ⟨mark, encodable, foreign, other⟩ : ∃ mark,
      (Formatter.custom (markedDay mark)).IsEncodable ∧ mark ∉ "20000101".text ∧
        tail.head? ≠ some mark := by
    by_cases same : tail.head? = some (.scalar 'a')
    · exact ⟨'b', rfl, by decide, by rw [same]; decide⟩
    · exact ⟨'a', rfl, by decide, same⟩
  have name : literal ++ (tail ++ mark :: "20000101".text) =
      front ++ (literal ++ mark :: "20000101".text) := by
    rw [← List.append_assoc, ← twice, List.append_assoc]
  refine ⟨literal ++ (tail ++ mark :: "20000101".text), mark, encodable, ?_, ?_⟩
  · refine ⟨front.length + literal.length, List.mem_map_of_mem ?_, ?_⟩
    · rw [name]
      exact Text.mem_occurrences_append ..
    · rw [name, ← List.drop_drop, List.drop_left, List.drop_left]
  · intro place member
    obtain ⟨position, found, rfl⟩ := List.mem_map.1 member
    rw [if_neg Bool.false_ne_true] at found
    rcases Text.le_of_mem_searched (List.prefix_append ..) found with rfl | behind
    · rw [Nat.zero_add, List.drop_left, List.head?_append_of_ne_nil _ tail_nonempty]
      exact other
    · -- A later occurrence that is found starts behind the first and ends behind the mark.
      intro marked
      obtain ⟨extra, far⟩ : ∃ extra, position + literal.length =
          literal.length + (tail.length + (1 + extra)) :=
        ⟨position - tail.length - 1, by omega⟩
      rw [far, ← List.drop_drop, List.drop_left, ← List.drop_drop, List.drop_left, ← List.drop_drop,
        List.drop_one, List.tail_cons] at marked
      exact foreign (List.mem_of_mem_drop (List.mem_of_head? marked))

/-- With a literal that overlaps itself, a timestamp can be missed. -/
theorem apart_of_missesNothing {admitted : Text → Prop} (complete : MissesNothing admitted)
    (known : admitted literal) : ¬ Text.OverlapsItself literal := by
  intro overlaps
  have nonempty : literal ≠ [] := by
    rintro rfl
    obtain ⟨shift, _, short, _⟩ := overlaps
    exact absurd short (Nat.not_lt_zero _)
  obtain ⟨name, mark, encodable, ⟨place, occurs, day⟩, passed⟩ := exists_passed_over overlaps
  have chosen := @chosenFormatter_print (markedDay mark) (List.cons_ne_nil _ _) .standard
  rw [← chosen] at encodable
  obtain ⟨generator, started, shown, formatter, _⟩ :=
    exists_start_separated (List.cons_ne_nil (.scalar '5') []) nonempty encodable
  have reached := Reaches.start started
  have locations := dateLocations_separated literal (some (markedDay mark).print)
  rw [← shown] at locations
  rw [chosen] at formatter
  have inner : ∀ other, .after other false ∈ generator.publication.template.dateLocations →
      admitted other := by
    intro other member
    rw [locations] at member
    cases List.mem_singleton.1 member
    exact known
  have unread : generator.readTimestamp name = none := by
    rw [reached.readTimestamp_eq_searched, Generator.firstAt_eq_none_iff, locations, formatter]
    intro location member place found
    cases List.mem_singleton.1 member
    exact read?_markedDay_of_head (passed place found)
  have nothing := (complete _ generator reached inner name).2.1 unread
  rw [locations, formatter] at nothing
  have missed := nothing _ (List.mem_singleton_self _) place occurs
  obtain ⟨stamp, read⟩ := read?_markedDay mark
  rw [day, read] at missed
  cases missed

end Lost

/-- Reading misses no timestamp, whatever the generator and whatever the name, exactly if the
literals that inner dates stand behind do not overlap themselves. -/
theorem missesNothing_iff (admitted : Text → Prop) :
    MissesNothing admitted ↔ ∀ literal, admitted literal → ¬ Text.OverlapsItself literal :=
  ⟨fun complete _ known => apart_of_missesNothing complete known, missesNothing_of_apart⟩

/-- The number ends like the literal behind it starts, so that the literal is found one character
too early, and the date behind its own place is missed. -/
theorem doubled_literal_missed :
    (∃ generator, (Origin.separated ['5', '_'] ['_', '_'] none).start = .ok generator ∧
      generator.publication.template = ⟨separatedDate ['_', '_'] none⟩ ∧
      generator.publication.value = "5___19700101_000000+0000".text ∧
      generator.readTimestamp generator.publication.value = none ∧
      generator.firstAt Text.occurrences generator.publication.value =
        some (plainTimestamp epochStart)) ∧
    ¬ ∀ admitted, MissesNothing admitted := by
  have overlaps : Text.OverlapsItself ['_', '_'] := ⟨1, by decide, by decide, by decide⟩
  refine ⟨?_, fun complete => apart_of_missesNothing (complete fun _ => True) trivial overlaps⟩
  obtain ⟨generator, started, shown, formatter, value⟩ :=
    @exists_start_separated ['_', '_'] ['5', '_'] (by decide) (by decide) none rfl
  have name : Filename.sanitize ([CodePoint.scalar '5', '_'] ++ ([CodePoint.scalar '_', '_'] ++
      (chosenFormatter .standard none).write epochStart)) = "5___19700101_000000+0000".text := by
    decide
  rw [name] at value
  have locations := dateLocations_separated ['_', '_'] none
  rw [← shown] at locations
  refine ⟨generator, started, shown, value, ?_, ?_⟩
  · rw [value, Generator.readTimestamp, (Reaches.start started).located, locations, formatter]
    decide
  · rw [value, Generator.firstAt, locations, formatter]
    decide

end RecordingName
