import RecordingName.Proofs.DateFormat.Seconds
import RecordingName.Proofs.Generator.BehindLiteral
import RecordingName.Proofs.Generator.Hiding

/-!
# Dates at the start of a name

A template may start with a date in the standard format, with anything behind it. Reading always
finds a timestamp then, with the right date and the right time, but the name does not tell where
the offset ends: if it has whole minutes, two digits behind it are read as its seconds.
`readTimestamp_of_startsDated` says exactly what is read and when that is the offset of the call, and
`number_taken_for_seconds` is a name that is misread.
-/

namespace RecordingName

open DateFormat Naming Template

/-- A template that starts with a date, and in which no date has a valid pattern. -/
structure Template.StartsDated (template : Template) : Prop where
  segments : ∃ argument rest,
    template.segments = .reference ⟨Variable.date.name, argument⟩ :: rest
  unpatterned : Unpatterned template.segments

variable {origin : Origin} {generator : Generator}

/-- A filename that starts with a date starts with the timestamp of its call. -/
theorem Reaches.value_of_startsDated (dated : origin.recording.choice.template.StartsDated)
    (reached : Reaches origin generator)
    (shown : generator.publication.template = origin.recording.choice.template) :
    ∃ stamp tail, stamp.Valid ∧ generator.recording.session.timestamp = some stamp ∧
      generator.publication.value = writeStandard stamp ++ tail := by
  obtain ⟨⟨argument, rest, segments⟩, unpatterned⟩ := dated
  obtain ⟨answer, stamp, before, following, valid, timestamp, ⟨_, _, front⟩, _, value⟩ :=
    @Reaches.value_at_date origin generator [] rest argument segments unpatterned reached shown
  obtain ⟨rfl, _⟩ := runOn_render_nil.1 front
  have kept : Filename.KeepsStart [] := ⟨by simp, by simp, by simp⟩
  obtain ⟨first, more, shape, _⟩ := exists_cons_writeStandard stamp
  have whole := @Filename.sanitize_append_of_kept (writeStandard stamp)
    (shape ▸ List.cons_ne_nil _ _) (kept.strip_append stamp)
    (notMem_append_writeStandard kept.1 (by decide) (by decide))
    (notMem_append_writeStandard kept.2.1 (by decide) (by decide)) following.text
  exact ⟨stamp, _, valid, timestamp, value.trans whole⟩

/-- Every generator of such a template reads the timestamp that a name starts with, with its
offset lengthened by the digits behind it. -/
theorem Reaches.readTimestamp_of_starting (dated : origin.recording.choice.template.StartsDated)
    (reached : Reaches origin generator) {stamp : ZonedTimestamp} (valid : stamp.Valid)
    (tail : Text) :
    generator.readTimestamp (writeStandard stamp ++ tail) = some ⟨stamp.date, stamp.time,
      Offset.fixed? (lengthened stamp.offset.seconds (addedSeconds stamp.offset.seconds tail))⟩ := by
  obtain ⟨⟨argument, rest, segments⟩, unpatterned⟩ := dated
  have first : ∃ later, generator.publication.template.dateLocations =
      .after [] true :: later := by
    rcases reached.publication_template with chosen | standard
    · rw [chosen]
      exact ⟨_, dateLocations_first segments⟩
    · rw [standard]
      exact ⟨_, dateLocations_first (rfl : Template.standard.segments = _)⟩
  obtain ⟨later, locations⟩ := first
  have read := read?_writeStandard_append valid tail
  rw [← reached.formatter_of_unpatterned unpatterned] at read
  have found := Generator.readTimestamp_at_start (reached.located.trans locations) read
  exact found

/-- Behind a filename that a template has made, which starts with a date and has not given way to
the standard one, with any ending, the date and the time of the call are always read. Its offset is
read exactly if it has seconds of its own or is not followed by two digits other than zeros. -/
theorem readTimestamp_of_startsDated {writer reader : Generator}
    (dated : origin.recording.choice.template.StartsDated)
    (written : Reaches origin writer) (ready : Reaches origin reader)
    (shown : writer.publication.template = origin.recording.choice.template) :
    ∃ stamp tail, writer.recording.session.timestamp = some stamp ∧
      writer.publication.value = writeStandard stamp ++ tail ∧
      ∀ ending, ∃ offset,
        reader.readTimestamp (writer.publication.value ++ ending) =
          some ⟨stamp.date, stamp.time, offset⟩ ∧
        (offset.map Offset.seconds = some stamp.offset.seconds ↔
          addedSeconds stamp.offset.seconds (tail ++ ending) = 0) := by
  obtain ⟨stamp, tail, valid, timestamp, value⟩ := written.value_of_startsDated dated shown
  refine ⟨stamp, tail, timestamp, value, fun ending => ⟨_, ?_, fixed?_lengthened_iff _ _⟩⟩
  rw [value, List.append_assoc]
  exact ready.readTimestamp_of_starting dated valid (tail ++ ending)

section Numbered

/-- The segments of a template that is a date and a number. -/
def numberedDate : List Segment :=
  [.reference ⟨Variable.date.name, none⟩, .reference ⟨Variable.phoneNumber.name, none⟩]

/-- A call at the start of the epoch from a number of two digits. -/
def Origin.numbered : Origin :=
  { Origin.named numberedDate with
    parent := { Details.ofMillis 0 with handle := some (Handle.ofNumber "12".text) } }

theorem choice_numbered : Origin.numbered.recording.choice = .custom ⟨numberedDate⟩ := by
  have number : IsNormal [.reference ⟨Variable.phoneNumber.name, none⟩] :=
    IsNormal.nil.reference_of_stripped (by decide) (by decide)
  exact Origin.choice_named (number.reference_of_stripped (by decide) (by decide))

/-- Its date stands at the start. -/
theorem startsDated_numbered : Origin.numbered.recording.choice.template.StartsDated := by
  rw [choice_numbered]
  refine ⟨⟨none, _, rfl⟩, ?_⟩
  intro target member
  have only : dates numberedDate = [⟨Variable.date.name, none⟩] := by decide
  rw [show dates (TemplateChoice.custom ⟨numberedDate⟩).template.segments = dates numberedDate
    from rfl, only, List.mem_singleton] at member
  rw [member]
  rfl

/-- The filename is the start of the epoch with the number behind it. -/
theorem exists_start_numbered : ∃ generator, Origin.numbered.start = .ok generator ∧
    generator.publication.template = ⟨numberedDate⟩ ∧
    generator.publication.value = writeStandard epochStart ++ "12".text ∧
    generator.recording.session.timestamp = some epochStart := by
  let recording := Origin.numbered.recording
  obtain ⟨log, dated⟩ :=
    @runOn_resolveDate_of_ok recording.zone (recording.context false) _ ofMillis_zero none
      recording.session rfl
  have joined : joinDistinct ((recording.context false).parties.map Details.phoneNumber?) =
      "12".text := by decide
  obtain ⟨behind, number, same⟩ : ∃ behind, runOn (resolve recording.zone
      (recording.context false) numberReference) { recording.session with
        timestamp := some epochStart, formatter := .standard, log } =
          (.ok (some "12".text), behind) ∧ behind.timestamp = some epochStart :=
    ⟨_, runOn_resolveNumber (by decide) joined _, rfl⟩
  have rendered : runOn (renderSegments (resolve recording.zone (recording.context false))
      numberedDate) recording.session = (.ok [
        (.reference ⟨Variable.date.name, none⟩, writeStandard epochStart),
        (.reference ⟨Variable.phoneNumber.name, none⟩, "12".text)], behind) :=
    runOn_render_reference.2 ⟨_, _, _, dated, runOn_render_reference.2
      ⟨_, _, [], number, rfl, rfl⟩, rfl⟩
  obtain ⟨generator, started, publication, kept⟩ :=
    Origin.start_of_rendered choice_numbered rendered
  have name : Filename.sanitize (writeStandard epochStart ++ "12".text) =
      writeStandard epochStart ++ "12".text := by decide
  refine ⟨generator, started, ?_, ?_, kept.1.trans same⟩
  · rw [publication]
    rfl
  · rw [publication]
    exact name

/-- The number behind the date is read as seconds of its offset, so that a call in universal time
seems to have been twelve seconds off. -/
theorem number_taken_for_seconds : ∃ generator, Origin.numbered.start = .ok generator ∧
    generator.publication.template = ⟨numberedDate⟩ ∧
    generator.recording.session.timestamp = some epochStart ∧
    generator.publication.value = "19700101_000000+000012".text ∧
    ∃ offset, generator.readTimestamp generator.publication.value =
        some ⟨epochStart.date, epochStart.time, some offset⟩ ∧
      offset.seconds = 12 ∧ epochStart.offset.seconds = 0 := by
  obtain ⟨generator, started, shown, value, timestamp⟩ := exists_start_numbered
  have valid : epochStart.Valid := ZonedTimestamp.valid_of_ofMillis ofMillis_zero
  have read := (Reaches.start started).readTimestamp_of_starting startsDated_numbered valid
    "12".text
  have added : lengthened epochStart.offset.seconds
      (addedSeconds epochStart.offset.seconds "12".text) = 12 := by decide
  have name : writeStandard epochStart ++ "12".text = "19700101_000000+000012".text := by decide
  rw [added] at read
  refine ⟨generator, started, shown, timestamp, value.trans name,
    ⟨12, Offset.plainAbbreviation 12, by decide⟩, ?_, rfl, rfl⟩
  rw [value]
  exact read

/-- The number behind the date keeps its offset from being read. -/
theorem readTimestamp_of_startsDated_numbered : ∃ generator offset,
    Origin.numbered.start = .ok generator ∧
    generator.readTimestamp (generator.publication.value ++ []) =
      some ⟨epochStart.date, epochStart.time, offset⟩ ∧
    offset.map Offset.seconds ≠ some 0 := by
  obtain ⟨generator, started, shown, value, timestamp⟩ := exists_start_numbered
  have reached := Reaches.start started
  have own : generator.publication.template =
      Origin.numbered.recording.choice.template := by
    rw [choice_numbered, shown]
    rfl
  obtain ⟨stamp, tail, same, shape, reads⟩ :=
    readTimestamp_of_startsDated startsDated_numbered reached reached own
  cases timestamp.symm.trans same
  obtain ⟨offset, read, correct⟩ := reads []
  have behind : tail = "12".text := List.append_cancel_left (shape.symm.trans value)
  refine ⟨generator, offset, started, read, fun right => ?_⟩
  have nothing := correct.1 right
  rw [behind] at nothing
  revert nothing
  decide

end Numbered

end RecordingName
