import RecordingName.Proofs.DateFormat.Standard
import RecordingName.Proofs.Generator.Publishing
import RecordingName.Proofs.Generator.Run
import RecordingName.Proofs.Naming.Filename
import RecordingName.Proofs.Naming.Standard
import RecordingName.Proofs.Settings
import RecordingName.Zone.Tables

/-!
# Names by the standard template

A generator without a template of the user's names every recording by the standard one,
and its filenames start with the timestamp of the call. `StandardName` holds of every
such generator, at its start and behind every action, by `StandardName.of_reaches`; and
so each of them reads the timestamp back from the filenames of any other.
-/

namespace RecordingName

open DateFormat Naming Template

/-- A generator whose settings hold no template that can be used. -/
def Origin.UsesStandard (origin : Origin) : Prop :=
  ∃ zones source settings, Settings.read zones source = .ok settings ∧ source.LeavesStandard ∧
    settings.filenameTemplate = origin.templateText

/-- The filename of a generator is made by the standard template: it starts with the timestamp
that the generator has kept, and an underscore separates what follows. -/
structure StandardName (generator : Generator) : Prop where
  choice : generator.recording.choice = .standard
  template : generator.publication.template = Template.standard
  formatter : generator.recording.session.formatter = .standard
  stamped : ∃ stamp tail, stamp.Valid ∧ generator.recording.session.timestamp = some stamp ∧
    generator.publication.value = writeStandard stamp ++ .scalar '_' :: tail

/-- A filename keeps a timestamp at its start and the underscore behind it. -/
theorem Filename.sanitize_writeStandard (stamp : ZonedTimestamp) (text : Text) :
    ∃ tail,
      sanitize (writeStandard stamp ++ .scalar '_' :: text) =
        writeStandard stamp ++ .scalar '_' :: tail := by
  obtain ⟨first, rest, shape, digit⟩ := exists_cons_writeStandard stamp
  have without {c : CodePoint} (separator : Text.isDigit c = false)
      (other : c ∉ [CodePoint.scalar '_', '.', '+', '-']) :
      c ∉ first :: (rest ++ [CodePoint.scalar '_']) := by
    intro member
    rw [← List.cons_append, ← shape] at member
    rcases List.mem_append.1 member with written | underscore
    · rcases of_mem_writeStandard written with digit | sign
      · simp [separator] at digit
      · exact other sign
    · simp [List.mem_singleton.1 underscore] at other
  rw [shape]
  exact sanitize_append (Text.isBlank_of_isDigit digit) (by decide)
    (without (by decide) (by decide)) (without (by decide) (by decide))

/-- With the standard template, publishing either gives such a filename or changes nothing. -/
theorem Recording.publish_standard {recording : Recording} (choice : recording.choice = .standard)
    (formatter : recording.session.formatter = .standard) (mayBlock : Bool) :
    (∃ publication after, recording.publish mayBlock = (.ok publication, after) ∧
      StandardName (.publishing after publication)) ∨
    ∃ fault, recording.publish mayBlock = (.error fault, recording) := by
  have attempt := @lastAttempt_of_standard mayBlock recording choice
  cases made : ZonedTimestamp.ofMillis recording.zone recording.parent.creationMillis with
  | error error =>
      right
      have failed := @runOn_renderStandard_of_error recording.zone (recording.context mayBlock) _
        made recording.session
      refine ⟨.instant error, publish_of_failed ?_⟩
      rw [rendering, attempt]
      exact failed
  | ok stamp =>
      left
      obtain ⟨rendering, behind, rendered, shape, timestamp, same_formatter⟩ :=
        @runOn_renderStandard_of_ok recording.zone (recording.context mayBlock) _
          recording.session made (by rw [formatter]; rfl)
      obtain ⟨tail, name⟩ := Filename.sanitize_writeStandard stamp
        (standardText (recording.context mayBlock))
      have last : recording.rendering mayBlock = (.ok rendering, behind) := by
        rw [Recording.rendering, attempt]
        exact rendered
      obtain ⟨log, published⟩ := publish_of_rendered last
      refine ⟨_, _, published, choice, ?_, ?_, stamp, tail, ?_, timestamp, ?_⟩
      · rw [attempt]
        rfl
      · exact same_formatter.trans formatter
      · exact ZonedTimestamp.valid_of_ofMillis made
      · change Filename.sanitize rendering.text = _
        rw [shape, formatter]
        exact name

/-- An action keeps it. -/
theorem StandardName.perform {generator : Generator} (named : StandardName generator)
    (action : Action) : StandardName (generator.perform action) := by
  obtain ⟨choice, template, formatter, stamped⟩ := named
  refine Generator.perform_induction ?_ ?_ ?_ action
  · intro mayBlock parent children
    let changed : Generator := { generator with
      recording.parent := parent, recording.children := children }
    rcases @Recording.publish_standard changed.recording choice formatter mayBlock with
      ⟨publication, after, published, named⟩ | ⟨fault, failed⟩
    · rw [@Generator.update_of_published mayBlock changed _ _ published]
      exact named
    · rw [@Generator.update_of_failed mayBlock changed _ _ failed]
      exact ⟨choice, template, formatter, stamped⟩
  · intro source placeholder
    exact ⟨choice, template, formatter, stamped⟩
  · intro provider directory log
    exact ⟨choice, template, formatter, stamped⟩

/-- Every generator without a usable template has such a filename. -/
theorem StandardName.of_reaches {origin : Origin} (standard : origin.UsesStandard)
    {generator : Generator} (reached : Reaches origin generator) : StandardName generator := by
  induction reached with
  | start started =>
      obtain ⟨zones, source, settings, read, left, same⟩ := standard
      have choice : origin.recording.choice = .standard := by
        rw [Origin.recording_choice, ← same]
        exact Settings.load_of_leavesStandard read left
      rw [Origin.start_eq] at started
      rcases Recording.publish_standard choice rfl false with
        ⟨publication, after, published, named⟩ | ⟨fault, failed⟩
      · rw [published] at started
        cases started
        exact named
      · rw [failed] at started
        cases started
  | step prior action inductionHypothesis => exact inductionHypothesis.perform action

/-- Every filename that a generator without a usable template has published is read back by
every other such generator, whatever either of them has been through and whatever is put
behind the filename: the date and the time are those that the first one kept, and so are the
seconds of the offset. -/
theorem readTimestamp_standardName {first second : Origin} (writes : first.UsesStandard)
    (reads : second.UsesStandard) {writer reader : Generator} (written : Reaches first writer)
    (ready : Reaches second reader) :
    ∃ stamp, writer.recording.session.timestamp = some stamp ∧
      ∀ ending, ∃ offset, offset.seconds = stamp.offset.seconds ∧
        reader.readTimestamp (writer.publication.value ++ ending) =
          some ⟨stamp.date, stamp.time, some offset⟩ := by
  obtain ⟨stamp, tail, valid, timestamp, name⟩ := (StandardName.of_reaches writes written).stamped
  have reader_named := StandardName.of_reaches reads ready
  refine ⟨stamp, timestamp, fun ending => ⟨plainOffset stamp.offset, rfl, ?_⟩⟩
  have apart : ¬ startsWithSeconds (.scalar '_' :: (tail ++ ending)) := by
    unfold startsWithSeconds
    rw [runLength_cons_of_outside (by decide)]
    decide
  have found := read?_writeStandard valid (.inr apart)
  have locations : Template.standard.dateLocations = [.after [] true] := by decide
  rw [Generator.readTimestamp, ready.located, reader_named.template, reader_named.formatter,
    locations, name,
    List.append_assoc, List.cons_append]
  simp only [List.findSome?_cons, Generator.readAt, Generator.candidates, if_true, found]
  rfl

/-- An outgoing call in a zone with odd seconds, with a template as it comes from the
settings. -/
def Origin.sample (templateText : Option Text) : Origin where
  templateText := templateText
  zone := .fixed ⟨-20762, "LMT".text, by decide⟩
  directory := .absent
  parent := { Details.ofMillis 1651255369123 with
    handle := some "tel:%2B4412".text, direction := some .outgoing }
  children := []

/-- A generator with an unreadable template writes a name, and one without any reads it. -/
theorem readTimestamp_standardName_sample : ∃ writer reader stamp,
    (Origin.sample (some ['{'])).start = .ok writer ∧ (Origin.sample none).start = .ok reader ∧
      writer.recording.session.timestamp = some stamp ∧
      ∀ ending, ∃ offset, offset.seconds = stamp.offset.seconds ∧
        reader.readTimestamp (writer.publication.value ++ ending) =
          some ⟨stamp.date, stamp.time, some offset⟩ := by
  have unreadable : (Origin.sample (some ['{'])).UsesStandard :=
    ⟨.tabulated, ⟨[("filename_template".text, .text ['{'])], []⟩, _, rfl, .inr ⟨_, rfl⟩, rfl⟩
  have unset : (Origin.sample none).UsesStandard := ⟨.tabulated, ⟨[], []⟩, _, rfl, trivial, rfl⟩
  obtain ⟨writer, writing⟩ : ∃ generator, (Origin.sample (some ['{'])).start = .ok generator :=
    ⟨_, rfl⟩
  obtain ⟨reader, reading⟩ : ∃ generator, (Origin.sample none).start = .ok generator := ⟨_, rfl⟩
  obtain ⟨stamp, timestamp, found⟩ :=
    readTimestamp_standardName unreadable unset (.start writing) (.start reading)
  exact ⟨writer, reader, stamp, writing, reading, timestamp, found⟩

end RecordingName
