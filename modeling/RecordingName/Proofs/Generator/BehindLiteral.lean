import RecordingName.Proofs.DateFormat.Standard
import RecordingName.Proofs.Generator.Attempts
import RecordingName.Proofs.Generator.Reading
import RecordingName.Proofs.Naming.Filename
import RecordingName.Proofs.Template.RoundTrip

/-!
# Dates behind a literal

A template may start with a literal, with a date in the standard format behind it. The date is
searched for behind the literal as the template holds it, but a filename holds the literal
without path separators and without blanks in front. `readsBehind_iff` says that this is the only
thing that can go wrong: dates are read back behind a literal, whatever the rest of the template
and the history of the generator, exactly if the literal has no path separator and starts with
no blank.
-/

namespace RecordingName

open DateFormat Naming Template

/-- A literal that stands at the start of a filename as it stands at the start of the
template. -/
def Filename.KeepsStart (literal : Text) : Prop :=
  .scalar '/' ∉ literal ∧ .scalar '\\' ∉ literal ∧ ∀ c ∈ literal.head?, Text.isBlank c = false

namespace Template

/-- What stands behind a date is told apart from its digits: it is nothing, or a literal that
starts with no digit. -/
def ClosesDate (rest : List Segment) : Prop :=
  rest = [] ∨ ∃ first text others,
    rest = .literal (first :: text) :: others ∧ Text.isDigit first = false

/-- A template that starts with a literal and a date behind it, where no date has a valid
pattern. -/
structure DatedBehind (literal : Text) (template : Template) : Prop where
  segments : ∃ argument rest, template.segments =
    .literal literal :: .reference ⟨Variable.date.name, argument⟩ :: rest ∧ ClosesDate rest
  unpatterned : Unpatterned template.segments

variable {answer : Reference → Evaluation (Option Text)} {rest : List Segment}
  {session behind : Session} {rendering : Rendering}

/-- What stands behind a date starts with no digit. -/
theorem ClosesDate.startsApart (closes : ClosesDate rest)
    (rendered : runOn (renderSegments answer rest) session = (.ok rendering, behind)) :
    Text.StartsApart rendering.text := by
  rcases closes with rfl | ⟨first, text, others, rfl, other⟩
  · obtain ⟨rfl, _⟩ := runOn_render_nil.1 rendered
    exact .nil
  · obtain ⟨following, _, rfl⟩ := runOn_render_literal.1 rendered
    exact .cons other _

end Template

/-- Behind a literal, every generator of a template reads back what the template has made of the
timestamp of its call: date, time and the seconds of the offset, even with an ending behind the
filename, as long as it starts with no digit. -/
def ReadsBehind (literal : Text) : Prop :=
  ∀ origin template writer reader, origin.recording.choice = .custom template →
    template.DatedBehind literal → Reaches origin writer → Reaches origin reader →
    writer.publication.template = template → reader.publication.template = template →
    ∃ stamp, writer.recording.session.timestamp = some stamp ∧
      ∀ ending, Text.StartsApart ending → ∃ offset, offset.seconds = stamp.offset.seconds ∧
        reader.readTimestamp (writer.publication.value ++ ending) =
          some ⟨stamp.date, stamp.time, some offset⟩

section Kept

variable {literal : Text} {origin : Origin} {template : Template} {generator : Generator}

/-- Without patterns, the filename that a generator shows for its template has the timestamp in the
standard format where a date stands, between the renderings of what stands around it. -/
theorem Reaches.value_at_date {front rest : List Segment} {argument : Option Text}
    (segments : origin.recording.choice.template.segments =
      front ++ .reference ⟨Variable.date.name, argument⟩ :: rest)
    (unpatterned : Unpatterned origin.recording.choice.template.segments)
    (reached : Reaches origin generator)
    (shown : generator.publication.template = origin.recording.choice.template) :
    ∃ answer stamp before following, stamp.Valid ∧
      generator.recording.session.timestamp = some stamp ∧
      (∃ first second, runOn (renderSegments answer front) first = (.ok before, second)) ∧
      (∃ third last, runOn (renderSegments answer rest) third = (.ok following, last)) ∧
      generator.publication.value =
        Filename.sanitize (before.text ++ (writeStandard stamp ++ following.text)) := by
  obtain ⟨recording, mayBlock, session, rendering, behind, requested, attempt, rendered, value,
    same⟩ := reached.exists_rendering
  have same_timestamp := (same (reached.isEncodable unpatterned.writable)).1
  have formatter := requested.lastAttempt_formatter unpatterned
  rw [attempt] at formatter
  rw [shown, segments] at rendered
  rw [segments] at unpatterned
  obtain ⟨before, middle, others, front_rendered, behind_front, whole⟩ :=
    runOn_render_append.1 rendered
  obtain ⟨answer, late, following, answered, rest_rendered, rfl⟩ :=
    runOn_render_reference.1 behind_front
  obtain ⟨stamp, made, text, timestamp⟩ := dated_of_render rendered whole rfl
  have plain : formatterBehind session.formatter (before.map (·.1) ++
      [.reference ⟨Variable.date.name, argument⟩]) = .standard := by
    rw [segments_of_render front_rendered, formatterBehind_of_unpatterned, formatter]
    intro target member
    refine unpatterned target ?_
    rw [List.append_cons, dates_append]
    exact List.mem_append_left _ member
  rw [plain] at text
  refine ⟨_, stamp, before, following, ZonedTimestamp.valid_of_ofMillis made,
    same_timestamp.trans timestamp, ⟨_, _, front_rendered⟩, ⟨_, _, rest_rendered⟩, ?_⟩
  rw [value, whole, Rendering.text_append, Rendering.text_cons, text]
  rfl

/-- The filename that a generator shows for such a template is made of the literal, its timestamp
in the standard format, and something that starts with no digit. -/
theorem Reaches.value_behind (dated : template.DatedBehind literal)
    (chosen : origin.recording.choice = .custom template) (reached : Reaches origin generator)
    (shown : generator.publication.template = template) :
    ∃ stamp tail, stamp.Valid ∧ generator.recording.session.timestamp = some stamp ∧
      Text.StartsApart tail ∧ generator.publication.value =
        Filename.sanitize (literal ++ (writeStandard stamp ++ tail)) := by
  obtain ⟨⟨argument, rest, segments, closes⟩, unpatterned⟩ := dated
  have template_chosen : origin.recording.choice.template = template := by
    rw [chosen]
    rfl
  rw [← template_chosen] at segments unpatterned shown
  obtain ⟨answer, stamp, before, following, valid, timestamp, ⟨_, _, front⟩, ⟨_, _, back⟩, value⟩ :=
    @Reaches.value_at_date origin generator [.literal literal] rest argument segments unpatterned
      reached shown
  obtain ⟨nothing, ended, rfl⟩ := runOn_render_literal.1 front
  obtain ⟨rfl, _⟩ := runOn_render_nil.1 ended
  refine ⟨stamp, following.text, valid, timestamp, closes.startsApart back, ?_⟩
  rw [value, Rendering.text_cons, Rendering.text_nil, List.append_nil]

/-- A literal that is kept has nothing to strip with a timestamp behind it. -/
theorem Filename.KeepsStart.strip_append (kept : KeepsStart literal) (stamp : ZonedTimestamp) :
    Text.strip (literal ++ writeStandard stamp) = literal ++ writeStandard stamp := by
  obtain ⟨first, more, shape, digit⟩ := exists_cons_writeStandard stamp
  refine Text.strip_eq_self_iff.2 ⟨?_, ?_⟩
  · intro c at_start
    cases literal with
    | nil =>
        rw [List.nil_append, shape] at at_start
        cases at_start
        exact Text.isBlank_of_isDigit digit
    | cons head others => exact kept.2.2 c at_start
  · intro c at_end
    have nonempty : writeStandard stamp ≠ [] := shape ▸ List.cons_ne_nil _ _
    rw [List.getLast?_append, List.getLast?_eq_some_getLast nonempty] at at_end
    cases at_end
    rcases of_mem_writeStandard (List.getLast_mem nonempty) with digit | sign
    · exact Text.isBlank_of_isDigit digit
    · have visible : ([CodePoint.scalar '_', '.', '+', '-'].all fun c => !Text.isBlank c) = true := by
        decide
      simpa using List.all_eq_true.1 visible _ sign

/-- What is neither a digit nor a sign of the standard format comes from the literal. -/
theorem notMem_append_writeStandard {c : CodePoint} {stamp : ZonedTimestamp} (absent : c ∉ literal)
    (no_digit : Text.isDigit c = false) (no_sign : c ∉ [CodePoint.scalar '_', '.', '+', '-']) :
    c ∉ literal ++ writeStandard stamp := by
  intro member
  rcases List.mem_append.1 member with early | written
  · exact absent early
  · rcases of_mem_writeStandard written with digit | sign
    · simp [no_digit] at digit
    · exact no_sign sign

/-- A literal that is kept stands in the filename as it stands in the template, with the timestamp
behind it. -/
theorem Filename.sanitize_behind (kept : KeepsStart literal) (stamp : ZonedTimestamp) {tail : Text}
    (apart : Text.StartsApart tail) :
    ∃ rest, Text.StartsApart rest ∧ sanitize (literal ++ (writeStandard stamp ++ tail)) =
      literal ++ (writeStandard stamp ++ rest) := by
  obtain ⟨first, more, shape, _⟩ := exists_cons_writeStandard stamp
  have nonempty : literal ++ writeStandard stamp ≠ [] :=
    List.append_ne_nil_of_right_ne_nil _ (shape ▸ List.cons_ne_nil _ _)
  simp only [← List.append_assoc literal]
  exact sanitize_append_apart nonempty (kept.strip_append stamp)
    (notMem_append_writeStandard kept.1 (by decide) (by decide))
    (notMem_append_writeStandard kept.2.1 (by decide) (by decide)) apart

/-- Every generator of the template reads a timestamp behind the literal. -/
theorem Reaches.readTimestamp_behind (dated : template.DatedBehind literal)
    (chosen : origin.recording.choice = .custom template) (reached : Reaches origin generator)
    (shown : generator.publication.template = template) {stamp : ZonedTimestamp}
    (valid : stamp.Valid) {rest : Text} (apart : Text.StartsApart rest) :
    generator.readTimestamp (literal ++ (writeStandard stamp ++ rest)) =
      some (plainTimestamp stamp) := by
  obtain ⟨⟨argument, others, segments, _⟩, unpatterned⟩ := dated
  have formatter := reached.formatter_of_unpatterned (by rw [chosen]; exact unpatterned)
  have found := read?_writeStandard valid (.inr (not_startsWithSeconds apart))
  rw [← formatter] at found
  rw [← shown] at segments
  exact Generator.readTimestamp_at_start (reached.located.trans (dateLocations_behind segments))
    found

/-- Behind a literal that is kept, dates are read back. -/
theorem readsBehind_of_keepsStart (kept : Filename.KeepsStart literal) : ReadsBehind literal := by
  intro origin template writer reader chosen dated writing reading written shown
  obtain ⟨stamp, tail, valid, timestamp, apart, value⟩ :=
    writing.value_behind dated chosen written
  obtain ⟨rest, rest_apart, name⟩ := Filename.sanitize_behind kept stamp apart
  refine ⟨stamp, timestamp, fun ending ending_apart => ⟨plainOffset stamp.offset, rfl, ?_⟩⟩
  rw [value, name, List.append_assoc, List.append_assoc]
  exact reading.readTimestamp_behind dated chosen shown valid (rest_apart.append ending_apart)

end Kept

section Lost

variable {literal : Text}

/-- The segments of a template that is a literal and a date. -/
def labelledDate (literal : Text) : List Segment :=
  [.literal literal, .reference ⟨Variable.date.name, none⟩]

theorem isNormal_labelledDate (nonempty : literal ≠ []) : IsNormal (labelledDate literal) := by
  have date : IsNormal [.reference ⟨Variable.date.name, none⟩] :=
    IsNormal.nil.reference_of_stripped (by decide) (by decide)
  have labelled := date.joinLiteral literal
  obtain ⟨head, others, rfl⟩ := List.exists_cons_of_ne_nil nonempty
  exact labelled

theorem datedBehind_labelledDate (literal : Text) :
    DatedBehind literal ⟨labelledDate literal⟩ := by
  refine ⟨⟨none, [], rfl, .inl rfl⟩, ?_⟩
  intro target member
  rw [labelledDate, dates_cons_literal, dates_cons_date rfl] at member
  rw [List.mem_singleton.1 member]
  rfl

/-- The filename that is made of a literal and the start of the epoch. -/
theorem exists_start_labelled (nonempty : literal ≠ []) :
    ∃ generator, (Origin.named (labelledDate literal)).start = .ok generator ∧
      generator.publication.template = ⟨labelledDate literal⟩ ∧
      generator.publication.value = Filename.sanitize (literal ++ writeStandard epochStart) := by
  obtain ⟨generator, started, shown, value, _⟩ :=
    @Origin.start_of_dated (Origin.named (labelledDate literal)) _ [.literal literal]
      [(.literal literal, literal)] _ none ofMillis_zero rfl
      (Origin.choice_named (isNormal_labelledDate nonempty)) rfl
  refine ⟨generator, started, shown, value.trans ?_⟩
  rw [Rendering.text_cons, Rendering.text_nil, List.append_nil]
  rfl

/-- A literal that is not kept does not stand in the filename. -/
theorem not_infix_of_not_keepsStart (lost : ¬ Filename.KeepsStart literal) :
    ¬ literal <:+: Filename.sanitize (literal ++ writeStandard epochStart) := by
  intro inside
  have separators := Filename.separators_notMem_sanitize (literal ++ writeStandard epochStart)
  refine lost ⟨fun slash => separators.1 (inside.subset slash),
    fun backslash => separators.2 (inside.subset backslash), fun c at_start => ?_⟩
  refine Bool.eq_false_iff.2 fun blank => ?_
  have strippable : Text.strip (literal ++ writeStandard epochStart) ≠
      literal ++ writeStandard epochStart := by
    intro stripped
    have visible := (Text.strip_eq_self_iff.1 stripped).1 c (by
      rw [List.head?_append, at_start]
      rfl)
    exact absurd blank (Bool.eq_false_iff.1 visible)
  -- All blanks of the text are in the literal, and at least one of them has been stripped.
  have fewer := Filename.countP_sanitize_lt strippable
  have none_in_date : (writeStandard epochStart).countP Text.isBlank = 0 := by decide
  rw [List.countP_append, none_in_date] at fewer
  have most := inside.sublist.countP_le (p := Text.isBlank)
  omega

/-- Where the literal does not stand in the name, no date is found. -/
theorem readTimestamp_of_not_infix {generator : Generator} (located : generator.Located)
    (shown : generator.publication.template = ⟨labelledDate literal⟩) (nonempty : literal ≠ [])
    {name : Text} (absent : ¬ literal <:+: name) : generator.readTimestamp name = none := by
  have locations : dateLocations ⟨labelledDate literal⟩ = [.after literal true] :=
    dateLocations_behind rfl
  rw [Generator.readTimestamp, located, shown, locations, List.findSome?_cons, Generator.readAt,
    Generator.candidates_of_not_infix nonempty absent]
  rfl

/-- Behind a literal that is not kept, not even the plainest date is read back. -/
theorem keepsStart_of_readsBehind (reads : ReadsBehind literal) : Filename.KeepsStart literal := by
  refine Classical.byContradiction fun lost => ?_
  have nonempty : literal ≠ [] := by
    rintro rfl
    exact lost ⟨by simp, by simp, by simp⟩
  obtain ⟨generator, started, shown, value⟩ := exists_start_labelled nonempty
  obtain ⟨stamp, _, found⟩ := reads _ _ generator generator
    (Origin.choice_named (isNormal_labelledDate nonempty)) (datedBehind_labelledDate literal)
    (.start started) (.start started) shown shown
  obtain ⟨offset, _, read⟩ := found [] .nil
  rw [List.append_nil, value,
    readTimestamp_of_not_infix (Reaches.start started).located shown nonempty
      (not_infix_of_not_keepsStart lost)] at read
  cases read

end Lost

/-- Dates are read back behind a literal exactly if it has no path separator and starts with no
blank. -/
theorem readsBehind_iff (literal : Text) : ReadsBehind literal ↔ Filename.KeepsStart literal :=
  ⟨keepsStart_of_readsBehind, readsBehind_of_keepsStart⟩

/-- The filename for a literal with a slash is no longer found to start with it. -/
theorem slashed_literal_unread :
    (∃ generator, (Origin.named (labelledDate "a/b_".text)).start = .ok generator ∧
      generator.publication.template = ⟨labelledDate "a/b_".text⟩ ∧
      generator.publication.value = "a_b_19700101_000000+0000".text ∧
      generator.readTimestamp generator.publication.value = none) ∧
    ¬ ∀ literal, ReadsBehind literal := by
  have lost : ¬ Filename.KeepsStart "a/b_".text := fun kept => kept.1 (by decide)
  refine ⟨?_, fun reads => lost (keepsStart_of_readsBehind (reads _))⟩
  have nonempty : "a/b_".text ≠ [] := by decide
  obtain ⟨generator, started, shown, value⟩ := exists_start_labelled nonempty
  have name : Filename.sanitize ("a/b_".text ++ writeStandard epochStart) =
      "a_b_19700101_000000+0000".text := by decide
  refine ⟨generator, started, shown, value.trans name, ?_⟩
  rw [value]
  exact readTimestamp_of_not_infix (Reaches.start started).located shown nonempty
    (not_infix_of_not_keepsStart lost)

end RecordingName
