import RecordingName.Proofs.DateFormat.Patterns
import RecordingName.Proofs.Generator.BehindLiteral

/-!
# Dates by a pattern

A template may start with a date in a pattern of its own. The pattern reads names that it has
written, but a filename does not hold all that the pattern has written: it has no path separators,
no blanks at its ends, and nothing from a null character on. `readsDatesBy_iff` says that this is
the only thing that can go wrong: a pattern that tells an instant, and that can be written by at all,
reads it back from every filename, whatever the rest of the template and the history of the
generator, exactly if all literals of the pattern get into the filename.
-/

namespace RecordingName

open DateFormat Naming Template

/-- A pattern whose literals stand in a filename as they stand in the pattern: none is a path
separator or the null character, and there is no blank at either end. -/
structure DateFormat.Pattern.KeptInFilename (pattern : Pattern) : Prop where
  plain : ∀ c, .literal c ∈ pattern.items → c ≠ '/' ∧ c ≠ '\\' ∧ c ≠ '\x00'
  start : ∀ c, pattern.items.head? = some (.literal c) → Text.isBlank c = false
  finish : ∀ c, pattern.items.getLast? = some (.literal c) → Text.isBlank c = false

/-- A template that starts with a date in a pattern, where every other date has the same
pattern. -/
structure Template.DatedBy (text : Text) (template : Template) : Prop where
  segments : ∃ rest, template.segments =
    .reference ⟨Variable.date.name, some text⟩ :: rest ∧ ClosesDate rest
  same : ∀ target ∈ dates template.segments, target.argument = some text

/-- If a pattern tells an instant, every generator of a template that starts with it reads back
what the template has made of the timestamp of its call: date, time to the second, or to the
microsecond if the pattern has microseconds, and the seconds of the offset. The year must have
four digits. -/
def ReadsDatesBy (pattern : Pattern) : Prop :=
  pattern.TellsInstant → ∀ origin template writer reader text, Pattern.parse text = .ok pattern →
    origin.recording.choice = .custom template → template.DatedBy text →
    Reaches origin writer → Reaches origin reader →
    writer.publication.template = template → reader.publication.template = template →
    ∃ stamp, writer.recording.session.timestamp = some stamp ∧
      (1000 ≤ stamp.date.year → ∃ offset, offset.seconds = stamp.offset.seconds ∧
        reader.readTimestamp writer.publication.value = some ⟨stamp.date,
          { stamp.time with microsecond :=
              if Item.directive .microsecond ∈ pattern.items then stamp.time.microsecond else 0 },
          some offset⟩)

variable {pattern : Pattern} {text : Text} {stamp : ZonedTimestamp}

section Kept

variable {origin : Origin} {template : Template} {generator : Generator}

/-- Dates with one pattern leave its formatter behind. -/
theorem Naming.formatterBehind_of_same {segments : List Segment}
    (parsed : Pattern.parse text = .ok pattern)
    (same : ∀ target ∈ dates segments, target.argument = some text) (dated : dates segments ≠ [])
    (formatter : Formatter) : formatterBehind formatter segments = .custom pattern := by
  have chosen (current : Formatter) : chosenFormatter current (some text) = .custom pattern := by
    rw [chosenFormatter, parsed]
  unfold formatterBehind
  revert same dated
  induction dates segments generalizing formatter with
  | nil => exact fun _ dated => absurd rfl dated
  | cons target others ih =>
      intro same _
      rw [List.foldl_cons, same target (List.mem_cons_self ..), chosen]
      by_cases last : others = []
      · rw [last, List.foldl_nil]
      · exact ih _ (fun other later => same other (List.mem_cons_of_mem _ later)) last

/-- If the pattern can be written by, all patterns of such a template can. -/
theorem Template.DatedBy.writable (dated : template.DatedBy text)
    (parsed : Pattern.parse text = .ok pattern) (encodable : (Formatter.custom pattern).IsEncodable) :
    Writable template.segments := by
  intro target member other patterned
  rw [Reference.pattern?, dated.same target member, Option.bind_some, parsed] at patterned
  cases patterned
  exact encodable

/-- The filename that a generator shows for such a template is made of its timestamp in the
pattern, which can be written by and is in force, and something that starts with no digit. -/
theorem Reaches.value_by_pattern (parsed : Pattern.parse text = .ok pattern)
    (chosen : origin.recording.choice = .custom template) (dated : template.DatedBy text)
    (reached : Reaches origin generator)
    (shown : generator.publication.template = template) :
    ∃ stamp tail, stamp.Valid ∧ generator.recording.session.timestamp = some stamp ∧
      generator.recording.session.formatter = .custom pattern ∧
      (Formatter.custom pattern).IsEncodable ∧ Text.StartsApart tail ∧
      generator.publication.value =
        Filename.sanitize (pattern.write stamp.toTimestamp ++ tail) := by
  have writable := dated.writable parsed
  obtain ⟨⟨rest, segments, closes⟩, same⟩ := dated
  obtain ⟨recording, mayBlock, session, rendering, behind, _, _, rendered, value, kept⟩ :=
    reached.exists_rendering
  rw [shown, segments] at rendered
  rw [segments] at same
  obtain ⟨answer, middle, following, answered, after_date, rfl⟩ :=
    runOn_render_reference.1 rendered
  have by_pattern : chosenFormatter session.formatter (some text) = .custom pattern := by
    rw [chosenFormatter, parsed]
  -- The pattern has written a date, so that no attempt of this generator has failed to write.
  obtain ⟨_, _, encodable, _⟩ := dated_of_resolve rfl answered
  rw [by_pattern] at encodable
  have template_chosen : origin.recording.choice.template = template := by
    rw [chosen]
    rfl
  rw [← template_chosen] at writable
  obtain ⟨same_timestamp, same_formatter⟩ := kept (reached.isEncodable (writable encodable))
  obtain ⟨stamp, made, written, timestamp⟩ := @dated_of_render _ _
    ⟨Variable.date.name, some text⟩ _ _ _ _ rendered [] following (answer.getD []) rfl rfl
  refine ⟨stamp, following.text, ZonedTimestamp.valid_of_ofMillis made,
    same_timestamp.trans timestamp, ?_, encodable, closes.startsApart after_date, ?_⟩
  · rw [same_formatter, runOn_render_formatter rendered]
    refine formatterBehind_of_same parsed same ?_ _
    rw [dates_cons_date rfl]
    exact List.cons_ne_nil _ _
  · rw [List.map_nil, List.nil_append, formatterBehind_date rfl, by_pattern] at written
    rw [value, Rendering.text_cons, written]
    rfl

namespace DateFormat.Pattern

variable {item : Item}

/-- An item is written visibly, if it is not a blank. -/
theorem writeItem_visible (tells : pattern.TellsInstant) (valid : stamp.Valid)
    (member : item ∈ pattern.items) (visible : ∀ c, item = .literal c → Text.isBlank c = false) :
    writeItem stamp.toTimestamp item ≠ [] ∧
      ∀ c ∈ writeItem stamp.toTimestamp item, Text.isBlank c = false := by
  cases item with
  | literal c =>
      refine ⟨List.cons_ne_nil _ _, fun written member => ?_⟩
      rw [List.mem_singleton.1 member]
      exact visible c rfl
  | directive kind =>
      have kept := isKeptText_writeItem tells.unnamed valid member
      exact ⟨kept.nonempty, fun c written => (kept.each c written).1⟩

/-- What a pattern has written has nothing to strip if there is no blank at its ends. -/
theorem strip_write (kept : pattern.KeptInFilename) (tells : pattern.TellsInstant)
    (valid : stamp.Valid) :
    Text.strip (pattern.write stamp.toTimestamp) = pattern.write stamp.toTimestamp := by
  have whole : .literal '\x00' ∉ pattern.items := fun member => (kept.plain _ member).2.2 rfl
  rw [write_eq_flatMap whole, Text.strip_eq_self_iff]
  constructor
  · intro c at_start
    cases shape : pattern.items with
    | nil => rw [shape] at at_start; cases at_start
    | cons first rest =>
        obtain ⟨nonempty, visible⟩ := writeItem_visible tells valid
          (shape ▸ List.mem_cons_self .. : first ∈ pattern.items)
          fun c same => kept.start c (by rw [shape, same]; rfl)
        rw [shape, List.flatMap_cons, List.head?_append,
          List.head?_eq_some_head nonempty] at at_start
        cases at_start
        exact visible _ (List.head_mem nonempty)
  · intro c at_end
    rcases List.eq_nil_or_concat pattern.items with shape | ⟨front, last, shape⟩
    · rw [shape] at at_end; cases at_end
    · rw [List.concat_eq_append] at shape
      obtain ⟨nonempty, visible⟩ := writeItem_visible tells valid
        (shape ▸ List.mem_append_right _ (List.mem_singleton_self _) : last ∈ pattern.items)
        fun c same => kept.finish c (by rw [shape, same, List.getLast?_concat])
      rw [shape, List.flatMap_append, List.flatMap_singleton, List.getLast?_append,
        List.getLast?_eq_some_getLast nonempty] at at_end
      cases at_end
      exact visible _ (List.getLast_mem nonempty)

/-- A pattern that tells an instant writes something. -/
theorem write_ne_nil (kept : pattern.KeptInFilename) (tells : pattern.TellsInstant)
    (valid : stamp.Valid) : pattern.write stamp.toTimestamp ≠ [] := by
  have whole : .literal '\x00' ∉ pattern.items := fun member => (kept.plain _ member).2.2 rfl
  have year := tells.holds .year (by decide)
  intro empty
  rw [write_eq_flatMap whole, List.flatMap_eq_nil_iff] at empty
  exact (isKeptText_writeItem tells.unnamed valid year).nonempty (empty _ year)

/-- A filename keeps what the pattern has written at its start. -/
theorem sanitize_write (kept : pattern.KeptInFilename) (tells : pattern.TellsInstant)
    (valid : stamp.Valid) {tail : Text} (apart : Text.StartsApart tail) :
    ∃ rest, Text.StartsApart rest ∧ Filename.sanitize (pattern.write stamp.toTimestamp ++ tail) =
      pattern.write stamp.toTimestamp ++ rest := by
  have slash : .scalar '/' ∉ pattern.write stamp.toTimestamp :=
    notMem_write tells.unnamed valid (by decide) fun member =>
      (kept.plain _ ((List.takeWhile_sublist _).subset member)).1 rfl
  have backslash : .scalar '\\' ∉ pattern.write stamp.toTimestamp :=
    notMem_write tells.unnamed valid (by decide) fun member =>
      (kept.plain _ ((List.takeWhile_sublist _).subset member)).2.1 rfl
  exact Filename.sanitize_append_apart (write_ne_nil kept tells valid)
    (strip_write kept tells valid) slash backslash apart

end DateFormat.Pattern

/-- A generator of such a template reads names by its pattern, from their start. -/
theorem Generator.readTimestamp_by_pattern (dated : template.DatedBy text)
    (located : generator.Located) (shown : generator.publication.template = template)
    (formatter : generator.recording.session.formatter = .custom pattern) {name : Text}
    (read : (Formatter.custom pattern).read? name = some (pattern.told stamp)) :
    generator.readTimestamp name = some (pattern.told stamp) := by
  obtain ⟨⟨rest, segments, _⟩, _⟩ := dated
  rw [← shown] at segments
  rw [← formatter] at read
  exact readTimestamp_at_start (located.trans (dateLocations_first segments)) read

/-- A pattern whose literals are kept if it can be written by reads back the dates that it has
written. -/
theorem readsDatesBy_of_kept (kept : pattern.TellsInstant → (Formatter.custom pattern).IsEncodable →
    pattern.KeptInFilename) : ReadsDatesBy pattern := by
  intro tells origin template writer reader text parsed chosen dated writing reading written shown
  obtain ⟨stamp, tail, valid, timestamp, _, encodable, apart, value⟩ :=
    writing.value_by_pattern parsed chosen dated written
  obtain ⟨_, _, _, _, formatter, _, _, _⟩ := reading.value_by_pattern parsed chosen dated shown
  have kept := kept tells encodable
  have whole : .literal '\x00' ∉ pattern.items := fun member => (kept.plain _ member).2.2 rfl
  refine ⟨stamp, timestamp, fun four => ⟨plainOffset stamp.offset, rfl, ?_⟩⟩
  obtain ⟨rest, rest_apart, name⟩ := Pattern.sanitize_write kept tells valid apart
  rw [value, name]
  exact Generator.readTimestamp_by_pattern dated reading.located shown formatter
    (Pattern.read?_write tells whole valid four rest_apart)

end Kept

section Lost

/-- If no literal is lost on its own, literals are lost only by stripping. -/
theorem DateFormat.Pattern.keptInFilename_of_strip
    (plain : ∀ c, .literal c ∈ pattern.items → c ≠ '/' ∧ c ≠ '\\' ∧ c ≠ '\x00')
    (stripped : Text.strip (pattern.write stamp.toTimestamp) = pattern.write stamp.toTimestamp) :
    pattern.KeptInFilename := by
  have whole : .literal '\x00' ∉ pattern.items := fun member => (plain _ member).2.2 rfl
  refine ⟨plain, fun c at_start => ?_, fun c at_end => ?_⟩
  · refine (Text.strip_eq_self_iff.1 stripped).1 c ?_
    obtain ⟨rest, shape⟩ := List.head?_eq_some_iff.1 at_start
    rw [Pattern.write_eq_flatMap whole, shape]
    rfl
  · refine (Text.strip_eq_self_iff.1 stripped).2 c ?_
    obtain ⟨front, shape⟩ := List.getLast?_eq_some_iff.1 at_end
    rw [Pattern.write_eq_flatMap whole, shape, List.flatMap_append, List.flatMap_singleton]
    exact List.getLast?_concat ..

/-- If not all literals get into the filename, there are too few characters of some class for
them. -/
theorem DateFormat.Pattern.countP_sanitize_lt (tells : pattern.TellsInstant) (valid : stamp.Valid)
    (lost : ¬ pattern.KeptInFilename) :
    ∃ class_, (Filename.sanitize (pattern.write stamp.toTimestamp)).countP class_ <
      pattern.items.countP (Item.isLiteralIn class_) := by
  have separators := Filename.separators_notMem_sanitize (pattern.write stamp.toTimestamp)
  -- A literal that the filename lacks altogether is a class of its own.
  have alone {c : CodePoint} (member : .literal c ∈ pattern.items)
      (absent : c ∉ Filename.sanitize (pattern.write stamp.toTimestamp)) :
      ∃ class_, (Filename.sanitize (pattern.write stamp.toTimestamp)).countP class_ <
        pattern.items.countP (Item.isLiteralIn class_) := by
    refine ⟨(· == c), ?_⟩
    have nowhere : (Filename.sanitize (pattern.write stamp.toTimestamp)).countP (· == c) = 0 :=
      List.count_eq_zero.2 absent
    rw [nowhere]
    exact List.countP_pos_iff.2 ⟨_, member, beq_self_eq_true c⟩
  by_cases slash : .literal '/' ∈ pattern.items
  · exact alone slash separators.1
  by_cases backslash : .literal '\\' ∈ pattern.items
  · exact alone backslash separators.2
  by_cases null : .literal '\x00' ∈ pattern.items
  · refine alone null fun inside => ?_
    have written := (Filename.mem_of_mem_sanitize inside).resolve_right (by decide)
    refine Pattern.notMem_write tells.unnamed valid (by decide) (fun early => ?_) written
    simpa using List.all_eq_true.1 List.all_takeWhile _ early
  -- Without these the pattern is written as a whole, so that its ends must be at fault.
  have plain : ∀ c, .literal c ∈ pattern.items → c ≠ '/' ∧ c ≠ '\\' ∧ c ≠ '\x00' := by
    intro c member
    refine ⟨?_, ?_, ?_⟩
    · rintro rfl
      exact slash member
    · rintro rfl
      exact backslash member
    · rintro rfl
      exact null member
  refine ⟨Text.isBlank, ?_⟩
  rw [← Pattern.countP_flatMap_writeItem tells.unnamed valid fun c kept => kept.1,
    ← Pattern.write_eq_flatMap null]
  exact Filename.countP_sanitize_lt fun stripped =>
    lost (Pattern.keptInFilename_of_strip plain stripped)

/-- The segments of a template that is a date in a pattern. -/
def patternedDate (text : Text) : List Segment :=
  [.reference ⟨Variable.date.name, some text⟩]

theorem isNormal_patternedDate (text : Text) : IsNormal (patternedDate text) :=
  IsNormal.nil.reference_of_stripped
    (show Text.strip Variable.date.name = Variable.date.name by decide)
    (show Variable.date.name ≠ [] by decide)

theorem datedBy_patternedDate (text : Text) : DatedBy text ⟨patternedDate text⟩ := by
  refine ⟨⟨[], rfl, .inl rfl⟩, ?_⟩
  intro target member
  rw [patternedDate, dates_cons_date rfl] at member
  rw [List.mem_singleton.1 member]

/-- The filename that is made of the start of the epoch in a pattern that can be written by. -/
theorem exists_start_patterned (parsed : Pattern.parse text = .ok pattern)
    (encodable : (Formatter.custom pattern).IsEncodable) :
    ∃ generator, (Origin.named (patternedDate text)).start = .ok generator ∧
      generator.publication.template = ⟨patternedDate text⟩ ∧
      generator.publication.value = Filename.sanitize (pattern.write epochStart.toTimestamp) ∧
      generator.recording.session.timestamp = some epochStart ∧
      generator.recording.session.formatter = .custom pattern := by
  have formatter : chosenFormatter .standard (some text) = .custom pattern := by
    rw [chosenFormatter, parsed]
  have started := @Origin.start_of_dated (Origin.named (patternedDate text)) _ [] [] _ (some text)
    ofMillis_zero rfl (Origin.choice_named (isNormal_patternedDate text))
    (formatter.symm ▸ encodable)
  rw [show (Origin.named (patternedDate text)).recording.session.formatter = .standard from rfl,
    formatter] at started
  exact started

/-- A pattern that loses one of its literals does not even read back the start of the epoch. -/
theorem exists_unread_of_lost (parsed : Pattern.parse text = .ok pattern)
    (encodable : (Formatter.custom pattern).IsEncodable) (tells : pattern.TellsInstant)
    (lost : ¬ pattern.KeptInFilename) :
    ∃ generator, (Origin.named (patternedDate text)).start = .ok generator ∧
      generator.publication.template = ⟨patternedDate text⟩ ∧
      generator.publication.value = Filename.sanitize (pattern.write epochStart.toTimestamp) ∧
      generator.recording.session.timestamp = some epochStart ∧
      generator.readTimestamp generator.publication.value = none := by
  obtain ⟨generator, started, shown, value, timestamp, formatter⟩ :=
    exists_start_patterned parsed encodable
  refine ⟨generator, started, shown, value, timestamp, ?_⟩
  obtain ⟨class_, fewer⟩ :=
    Pattern.countP_sanitize_lt tells (ZonedTimestamp.valid_of_ofMillis ofMillis_zero) lost
  have candidates (name : Text) : Generator.candidates name (.after [] true) = [name] :=
    Generator.candidates_at_start [] name
  have locations : dateLocations ⟨patternedDate text⟩ = [.after [] true] :=
    dateLocations_first rfl
  rw [value, Generator.readTimestamp, (Reaches.start started).located, shown, formatter, locations,
    List.findSome?_cons,
    Generator.readAt, candidates, List.findSome?_cons, Pattern.read?_of_countP_lt fewer]
  rfl

/-- A pattern that can be written by and reads back the dates that it has written loses no
literal. -/
theorem kept_of_readsDatesBy (reads : ReadsDatesBy pattern) (tells : pattern.TellsInstant)
    (encodable : (Formatter.custom pattern).IsEncodable) : pattern.KeptInFilename := by
  refine Classical.byContradiction fun lost => ?_
  have some_item : pattern.items ≠ [] := List.ne_nil_of_mem (tells.holds .year (by decide))
  have parsed := Pattern.parse_print some_item
  obtain ⟨generator, started, shown, _, timestamp, unread⟩ :=
    exists_unread_of_lost parsed encodable tells lost
  have reached : Reaches (.named (patternedDate pattern.print)) generator := .start started
  obtain ⟨stamp, same, found⟩ := reads tells _ _ generator generator _ parsed
    (Origin.choice_named (isNormal_patternedDate _)) (datedBy_patternedDate _) reached reached
    shown shown
  rw [timestamp] at same
  cases same
  obtain ⟨offset, _, read⟩ := found (by decide)
  rw [unread] at read
  cases read

end Lost

/-- Of the patterns that tell an instant and can be written by, exactly those read back what they
have written whose literals all get into the filename. -/
theorem readsDatesBy_iff (pattern : Pattern) :
    ReadsDatesBy pattern ↔ (pattern.TellsInstant → (Formatter.custom pattern).IsEncodable →
      pattern.KeptInFilename) :=
  ⟨kept_of_readsDatesBy, readsDatesBy_of_kept⟩

/-- A pattern with slashes between the parts of the date. -/
def slashedPattern : Pattern where
  items := [.directive .year, .literal '/', .directive .month, .literal '/', .directive .day,
    .literal '_', .directive .hour, .directive .minute, .directive .second, .directive .offset]

theorem slashedPattern_tellsInstant : slashedPattern.TellsInstant :=
  ⟨by decide, by decide, by decide⟩

/-- The filename for a pattern with slashes is not read by the pattern. -/
theorem slashed_pattern_unread :
    (∃ generator,
      (Origin.named (patternedDate "%Y/%m/%d_%H%M%S%z".text)).start = .ok generator ∧
      generator.publication.template = ⟨patternedDate "%Y/%m/%d_%H%M%S%z".text⟩ ∧
      generator.publication.value = "1970_01_01_000000+0000".text ∧
      generator.readTimestamp generator.publication.value = none) ∧
    ¬ ∀ pattern, ReadsDatesBy pattern := by
  have printed : slashedPattern.print = "%Y/%m/%d_%H%M%S%z".text := by decide
  have parsed := @Pattern.parse_print slashedPattern (by decide)
  rw [printed] at parsed
  have lost : ¬ slashedPattern.KeptInFilename := fun kept => (kept.plain '/' (by decide)).1 rfl
  have name : Filename.sanitize (slashedPattern.write epochStart.toTimestamp) =
      "1970_01_01_000000+0000".text := by decide
  obtain ⟨generator, started, shown, value, _, unread⟩ :=
    exists_unread_of_lost parsed rfl slashedPattern_tellsInstant lost
  refine ⟨⟨generator, started, shown, value.trans name, unread⟩, fun reads => ?_⟩
  exact lost (kept_of_readsDatesBy (reads slashedPattern) slashedPattern_tellsInstant rfl)

end RecordingName
