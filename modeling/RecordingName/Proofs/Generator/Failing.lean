import RecordingName.Proofs.Generator.Attempts
import RecordingName.Proofs.Generator.Hiding

/-!
# Failing attempts

An attempt to make the filename fails exactly if the chosen template cannot be evaluated and there
is no date for the standard one: because the call has no timestamp, or because the formatter that
the chosen template has left behind cannot write it, by `Generator.answer_eq_fault_iff`. Without a
timestamp the template cannot be evaluated if it holds a date, or because something else is not
answered: `Recording.raises_iff`. An attempt that fails for want of a timestamp leaves what was
published `Undisturbed`; one that fails to write a date leaves the formatter that cannot write, so
that nothing more is read out of the name that is still published. Only details of an unrelated
call are turned away. `failing_leaves_published` puts this together.
-/

namespace RecordingName

open DateFormat Naming Template

namespace Recording

variable {mayBlock : Bool} {recording : Recording} {error : InstantError}

/-- A reference of the chosen template that is no date has no answer when all before it has been
rendered. -/
def Unanswered (mayBlock : Bool) (recording : Recording) : Prop :=
  ∃ front target back before middle fault behind,
    recording.choice.template.segments = front ++ .reference target :: back ∧
    target.name ≠ Variable.date.name ∧
    runOn (renderSegments (resolve recording.zone (recording.context mayBlock)) front)
      recording.session = (.ok before, middle) ∧
    runOn (resolve recording.zone (recording.context mayBlock) target) middle =
      (.error fault, behind)

/-- Without a timestamp, a template cannot be evaluated exactly if it holds a date or something
else in it has no answer. -/
theorem raises_iff
    (without : ZonedTimestamp.ofMillis recording.zone recording.parent.creationMillis =
      .error error) :
    recording.Raises mayBlock ↔
      dates recording.choice.template.segments ≠ [] ∨ recording.Unanswered mayBlock := by
  rw [raises_iff_render]
  constructor
  · rintro ⟨fault, behind, failed⟩
    obtain ⟨front, target, back, before, middle, shape, rendered, unanswered⟩ :=
      runOn_render_eq_error.1 failed
    by_cases dated : target.name = Variable.date.name
    · refine .inl (List.ne_nil_of_mem (mem_dates.2 ⟨?_, dated⟩))
      rw [shape]
      exact List.mem_append_right _ (List.mem_cons_self ..)
    · exact .inr ⟨front, target, back, before, middle, fault, behind, shape, dated, rendered,
        unanswered⟩
  · rintro (some_date | ⟨front, target, back, before, middle, fault, behind, shape, _, rendered,
      unanswered⟩)
    · obtain ⟨target, member⟩ := List.exists_mem_of_ne_nil _ some_date
      obtain ⟨member, dated⟩ := mem_dates.1 member
      obtain ⟨front, back, shape⟩ := List.append_of_mem member
      cases ran : runOn (renderSegments (resolve recording.zone (recording.context mayBlock))
          recording.choice.template.segments) recording.session with
      | mk result behind =>
          cases result with
          | error fault => exact ⟨fault, behind, rfl⟩
          | ok rendering =>
              exfalso
              rw [shape] at ran
              obtain ⟨_, _, _, _, after_front, _⟩ := runOn_render_append.1 ran
              obtain ⟨_, _, _, answered, _⟩ := runOn_render_reference.1 after_front
              obtain ⟨stamp, made, _⟩ := dated_of_resolve dated answered
              exact absurd (made.symm.trans without) (by simp)
    · exact ⟨fault, behind, runOn_render_eq_error.2
        ⟨front, target, back, before, middle, shape, rendered, unanswered⟩⟩

/-- There is no date for the standard template because the call has no timestamp, or because the
formatter that the last attempt starts with cannot write it. -/
theorem dateFault?_eq_some_iff {fault : Fault} :
    recording.dateFault? mayBlock = some fault ↔
      (∃ error, ZonedTimestamp.ofMillis recording.zone recording.parent.creationMillis =
        .error error ∧ fault = .instant error) ∨
      ∃ stamp error, ZonedTimestamp.ofMillis recording.zone recording.parent.creationMillis =
        .ok stamp ∧ (recording.lastAttempt mayBlock).2.formatter.encodingError? = some error ∧
        fault = .format (.encoding error) := by
  rw [dateFault?]
  cases made : ZonedTimestamp.ofMillis recording.zone recording.parent.creationMillis with
  | error error =>
      rw [dateFault?_of_error made]
      simp [eq_comm]
  | ok stamp =>
      rw [dateFault?_of_made made, Option.map_eq_some_iff]
      simp [eq_comm]

end Recording

namespace Generator

variable {action : Action} {generator : Generator} {recording : Recording} {mayBlock : Bool}

/-- What an action answers: what is wrong with it or with the filename, if anything is. -/
def answer : Action → Generator → Except UpdateError Unit
  | .update mayBlock, generator =>
      ((generator.update mayBlock).1.mapError .fault).map fun _ => ()
  | .details line details, generator => (generator.updateDetails line details).1
  | .parse _, _ => .ok ()
  | .redaction _ _, _ => .ok ()
  | .surroundings _ _, _ => .ok ()

/-- What was published is as it was: the filename, the places where dates are read, the timestamp and
the formatter, and with them what is read out of names. No redaction has been removed. -/
structure Undisturbed (before after : Generator) : Prop where
  publication : after.publication = before.publication
  locations : after.locations = before.locations
  timestamp : after.recording.session.timestamp = before.recording.session.timestamp
  formatter : after.recording.session.formatter = before.recording.session.formatter
  reading : ∀ name, after.readTimestamp name = before.readTimestamp name
  redactions : Remembers before.recording.session after.recording.session

/-- A date could not be written. The filename and the places where dates are read are as they were,
and no redaction has been removed, but the formatter that cannot write is in force. -/
structure Unwritten (error : Text.EncodingError) (before after : Generator) : Prop where
  publication : after.publication = before.publication
  locations : after.locations = before.locations
  timestamp : ∃ stamp, after.recording.session.timestamp = some stamp
  formatter : after.recording.session.formatter.encodingError? = some error
  redactions : Remembers before.recording.session after.recording.session

/-- An action with a request answers as publishing does. -/
theorem answer_of_request (requested : generator.request? action = some (recording, mayBlock)) :
    generator.answer action =
      ((recording.publish mayBlock).1.mapError .fault).map fun _ => () := by
  have updated : (Generator.update mayBlock { generator with recording }).1 =
      (recording.publish mayBlock).1 := by
    cases made : recording.publish mayBlock with
    | mk result after =>
        cases result with
        | ok publication => rw [@update_of_published mayBlock { generator with recording } _ _ made]
        | error fault => rw [@update_of_failed mayBlock { generator with recording } _ _ made]
  rw [← updated]
  obtain ⟨rfl, rfl⟩ | ⟨details, rfl, rfl, rfl⟩ | ⟨number, details, rfl, rfl, rfl⟩ :=
    request?_eq_some requested
  · rfl
  · simp only [answer, updateDetails]
    cases (Generator.update false { generator with recording.parent := details }).1 <;> rfl
  · simp only [answer, updateDetails]
    cases (Generator.update false { generator with
      recording.children := generator.recording.children.put number details }).1 <;> rfl

/-- An action without a request has nothing to complain of, unless it brings details of an
unrelated call. -/
theorem answer_of_silent (silent : generator.request? action = none) :
    generator.answer action = .ok () ∨
      ∃ details, action = .details .unrelated details ∧
        generator.answer action = .error .mismatch := by
  cases action with
  | update mayBlock => cases silent
  | details line details =>
      cases line with
      | parent => cases silent
      | child number => cases silent
      | unrelated => exact .inr ⟨details, rfl, rfl⟩
  | parse name => exact .inl rfl
  | redaction source placeholder => exact .inl rfl
  | surroundings subscriptions directory => exact .inl rfl

/-- An action passes on what publishing fails for, if it requests a filename. -/
theorem answer_eq_fault_iff {fault : Fault} :
    generator.answer action = .error (.fault fault) ↔
      ∃ recording mayBlock, generator.request? action = some (recording, mayBlock) ∧
        (recording.publish mayBlock).1 = .error fault := by
  cases requested : generator.request? action with
  | none =>
      rcases answer_of_silent requested with fine | ⟨details, _, mismatch⟩
      · simp [fine]
      · simp [mismatch]
  | some request =>
      obtain ⟨recording, mayBlock⟩ := request
      have passed_on : generator.answer action = .error (.fault fault) ↔
          (recording.publish mayBlock).1 = .error fault := by
        rw [answer_of_request requested]
        cases (recording.publish mayBlock).1 with
        | ok publication =>
            constructor
            · rintro ⟨⟩
            · rintro ⟨⟩
        | error cause =>
            constructor
            · rintro ⟨⟩
              rfl
            · rintro ⟨⟩
              rfl
      rw [passed_on]
      constructor
      · exact fun failed => ⟨recording, mayBlock, rfl, failed⟩
      · rintro ⟨_, _, same, failed⟩
        cases same
        exact failed

/-- Only details of an unrelated call are turned away. -/
theorem answer_eq_mismatch_iff :
    generator.answer action = .error .mismatch ↔
      ∃ details, action = .details .unrelated details := by
  constructor
  · intro refused
    cases requested : generator.request? action with
    | none =>
        rcases answer_of_silent requested with fine | ⟨details, same, _⟩
        · rw [fine] at refused
          cases refused
        · exact ⟨details, same⟩
    | some request =>
        rw [answer_of_request requested] at refused
        cases made : (request.1.publish request.2).1 with
        | ok publication =>
            rw [made] at refused
            cases refused
        | error fault =>
            rw [made] at refused
            cases refused
  · rintro ⟨details, rfl⟩
    rfl

/-- A failing attempt disturbs nothing that was published, if it fails for want of a timestamp. -/
theorem undisturbed_of_instant {error : InstantError}
    (failed : generator.answer action = .error (.fault (.instant error))) :
    Undisturbed generator (generator.perform action) := by
  obtain ⟨recording, mayBlock, requested, unpublished⟩ := answer_eq_fault_iff.1 failed
  have left := Recording.publish_fault unpublished
  have remembered := remembers_perform action generator
  obtain ⟨parent, children, rfl⟩ := recording_of_request requested
  rw [perform_of_failed requested unpublished] at remembered ⊢
  rcases left with ⟨_, _, _, timestamp, formatter⟩ | ⟨_, _, other, _⟩
  · refine ⟨rfl, rfl, timestamp, formatter, fun name => ?_, remembered⟩
    rw [readTimestamp, readTimestamp, formatter]
  · cases other

/-- An attempt that fails to write a date leaves the timestamp and the formatter that cannot write
it. -/
theorem unwritten_of_format {error : Text.EncodingError}
    (failed : generator.answer action = .error (.fault (.format (.encoding error)))) :
    Unwritten error generator (generator.perform action) := by
  obtain ⟨recording, mayBlock, requested, unpublished⟩ := answer_eq_fault_iff.1 failed
  have left := Recording.publish_fault unpublished
  have remembered := remembers_perform action generator
  obtain ⟨parent, children, rfl⟩ := recording_of_request requested
  rw [perform_of_failed requested unpublished] at remembered ⊢
  rcases left with ⟨_, other, _⟩ | ⟨stamp, _, same, _, timestamp, formatter⟩
  · cases other
  · cases same
    exact ⟨rfl, rfl, ⟨stamp, timestamp⟩, formatter, remembered⟩

end Generator

/-- If the patterns in the template of its origin can be written by, an attempt of a generator fails
only for want of a timestamp. -/
theorem Reaches.fault_eq_instant {origin : Origin} {generator : Generator} {action : Action}
    {fault : Fault} (reached : Reaches origin generator)
    (writable : Writable origin.recording.choice.template.segments)
    (failed : generator.answer action = .error (.fault fault)) :
    ∃ error, fault = .instant error := by
  obtain ⟨recording, mayBlock, requested, unpublished⟩ := Generator.answer_eq_fault_iff.1 failed
  rcases Recording.publish_fault unpublished with
    ⟨error, same, _⟩ | ⟨_, error, _, _, _, unencodable⟩
  · exact ⟨error, same⟩
  · have encodable := (reached.step action).isEncodable writable
    obtain ⟨parent, children, rfl⟩ := Generator.recording_of_request requested
    rw [Generator.perform_of_failed requested unpublished] at encodable
    exact absurd (encodable.symm.trans unencodable) (by simp)

/-- What failing attempts leave. Whatever a generator has been through, an action fails on a filename
exactly if it requests one, the chosen template cannot be evaluated, and either the call has no
timestamp, or the formatter that is left behind cannot write it; it tells which. Without a timestamp
the template cannot be evaluated if it holds a date or something else in it has no answer, and the
filename, the places where dates are read, the timestamp, the formatter, all that is read out of
names, and every redaction are left. Where a date could not be written, the filename, the places and
the redactions are left, but the formatter in force is the one that cannot write; that happens only
if the template has a pattern that cannot be written by. Only details of an unrelated call are
turned away, and they leave the generator as it was. -/
theorem failing_leaves_published (generator : Generator) (action : Action) :
    (∀ fault, generator.answer action = .error (.fault fault) ↔
      ∃ recording mayBlock, generator.request? action = some (recording, mayBlock) ∧
        recording.Raises mayBlock ∧
        ((∃ error, ZonedTimestamp.ofMillis recording.zone recording.parent.creationMillis =
            .error error ∧ fault = .instant error) ∨
          ∃ stamp error, ZonedTimestamp.ofMillis recording.zone
            recording.parent.creationMillis = .ok stamp ∧
            (recording.lastAttempt mayBlock).2.formatter.encodingError? = some error ∧
            fault = .format (.encoding error))) ∧
    (∀ (recording : Recording) mayBlock error,
      ZonedTimestamp.ofMillis recording.zone recording.parent.creationMillis =
          .error error →
        (recording.Raises mayBlock ↔
          dates recording.choice.template.segments ≠ [] ∨ recording.Unanswered mayBlock)) ∧
    (∀ error, generator.answer action = .error (.fault (.instant error)) →
      generator.Undisturbed (generator.perform action)) ∧
    (∀ error, generator.answer action = .error (.fault (.format (.encoding error))) →
      generator.Unwritten error (generator.perform action)) ∧
    (∀ origin, Reaches origin generator → Writable origin.recording.choice.template.segments →
      ∀ fault, generator.answer action = .error (.fault fault) → ∃ error, fault = .instant error) ∧
    (generator.answer action = .error .mismatch ↔
      ∃ details, action = .details .unrelated details) ∧
    ∀ details, generator.perform (.details .unrelated details) = generator := by
  refine ⟨fun fault => ?_, fun _ _ _ without => Recording.raises_iff without,
    fun _ failed => Generator.undisturbed_of_instant failed,
    fun _ failed => Generator.unwritten_of_format failed,
    fun _ reached writable _ failed => reached.fault_eq_instant writable failed,
    Generator.answer_eq_mismatch_iff, fun _ => rfl⟩
  simp only [Generator.answer_eq_fault_iff, Recording.publish_eq_error_iff,
    Recording.dateFault?_eq_some_iff]

/-- A call in universal time, which is named by the standard template. -/
def Origin.plain : Origin where
  templateText := none
  zone := .utc
  directory := .absent
  parent := Details.ofMillis 0
  children := []

/-- Details of an instant without a timestamp make no difference to what was published before. -/
theorem failing_leaves_published_late : ∃ generator, Origin.plain.start = .ok generator ∧
    generator.answer (.details .parent (.ofMillis 100000000000000000000)) =
      .error (.fault (.instant .yearTooLarge)) ∧
    generator.Undisturbed
      (generator.perform (.details .parent (.ofMillis 100000000000000000000))) := by
  obtain ⟨generator, began⟩ := @Origin.exists_start Origin.plain _ rfl unpatterned_standard.writable
  obtain ⟨session, recorded⟩ := Origin.recording_of_start began
  obtain ⟨fails, raises, undisturbed, _⟩ := failing_leaves_published generator
    (.details .parent (.ofMillis 100000000000000000000))
  have without : ZonedTimestamp.ofMillis generator.recording.zone 100000000000000000000 =
      .error .yearTooLarge := by
    rw [recorded]
    rfl
  have some_date : dates generator.recording.choice.template.segments ≠ [] := by
    have standard : dates Template.standard.segments ≠ [] := by decide
    rw [recorded]
    exact standard
  have failed := (fails _).2 ⟨{ generator.recording with
    parent := .ofMillis 100000000000000000000 }, false, rfl,
    (raises _ _ _ without).2 (.inl some_date), .inl ⟨_, without, rfl⟩⟩
  exact ⟨generator, began, failed, undisturbed _ failed⟩

section Surrogate

/-- The pattern of a year with a lone surrogate behind it. -/
def surrogatePattern : Pattern := ⟨[.directive .year, .literal (.surrogate 0x4ff)]⟩

/-- What is wrong with this pattern. -/
def surrogateError : Text.EncodingError := ⟨2, [.surrogate 0x4ff]⟩

/-- The segments of a template with the slot of the subscription and a year with a surrogate. -/
def slottedSurrogate : List Segment :=
  [.reference ⟨Variable.simSlot.name, none⟩,
    .reference ⟨Variable.date.name, some surrogatePattern.print⟩]

theorem isNormal_slottedSurrogate : IsNormal slottedSurrogate := by
  have date : IsNormal [.reference ⟨Variable.date.name, some surrogatePattern.print⟩] :=
    IsNormal.nil.reference_of_stripped (by decide) (by decide)
  exact date.reference_of_stripped (by decide) (by decide)

/-- A device that does not tell whether it has subscriptions. -/
def Subscriptions.silent : Subscriptions :=
  { Subscriptions.none with hasTelephony := .error "no answer".text }

/-- A call on a device that does not answer at first. -/
def Origin.surrogate : Origin :=
  { Origin.named slottedSurrogate with device := some (.steady .silent) }

/-- The template is read as it was printed. -/
theorem choice_surrogate : Origin.surrogate.recording.choice = .custom ⟨slottedSurrogate⟩ :=
  Origin.choice_named isNormal_slottedSurrogate

/-- A silent device ends the attempt at the slot, before the pattern is met. -/
theorem runOn_renderSurrogate_of_silent (zone : Zone) (context : Context) (session : Session) :
    runOn (renderSegments (resolve zone context) slottedSurrogate)
        { session with device := some (.steady .silent) } =
      (.error (.subscriptions "no answer".text),
        { session with device := some (.steady .silent) }) := rfl

/-- On a device without subscriptions, the date is reached and cannot be written. -/
theorem runOn_renderSurrogate_of_none {zone : Zone} {context : Context} {stamp : ZonedTimestamp}
    (made : ZonedTimestamp.ofMillis zone context.parent.creationMillis = .ok stamp)
    (session : Session) :
    ∃ behind, runOn (renderSegments (resolve zone context) slottedSurrogate)
        { session with device := some (.steady .none) } =
          (.error (.format (.encoding surrogateError)), behind) ∧
      behind.formatter = .custom surrogatePattern := by
  obtain ⟨middle, slot⟩ : ∃ middle, runOn (renderSegments (resolve zone context)
      [.reference ⟨Variable.simSlot.name, none⟩]) { session with device := some (.steady .none) } =
        (.ok [(.reference ⟨Variable.simSlot.name, none⟩, [])], middle) := ⟨_, rfl⟩
  obtain ⟨log, unwritten⟩ := runOn_resolveDate_of_made made (some surrogatePattern.print) middle
  rw [@chosenFormatter_print surrogatePattern (List.cons_ne_nil _ _)] at unwritten
  exact ⟨_, runOn_render_eq_error.2 ⟨[.reference ⟨Variable.simSlot.name, none⟩],
    ⟨Variable.date.name, some surrogatePattern.print⟩, [], _, middle, rfl, slot, unwritten⟩, rfl⟩

/-- As long as the device does not answer, the date with the pattern is not reached, so that the
standard template makes the filename. -/
theorem exists_start_surrogate : ∃ generator, Origin.surrogate.start = .ok generator ∧
    generator.publication.template = Template.standard ∧
    generator.recording.session.formatter = .standard := by
  obtain ⟨log, attempt⟩ := Recording.lastAttempt_of_failed choice_surrogate
    (runOn_renderSurrogate_of_silent .utc (Origin.surrogate.recording.context false)
      Origin.surrogate.recording.session)
  obtain ⟨rendering, behind, rendered, _, _, formatter⟩ :=
    @runOn_renderStandard_of_ok Origin.surrogate.recording.zone
      (Origin.surrogate.recording.context false) epochStart
      { Origin.surrogate.recording.session with log } ofMillis_zero rfl
  have last : Origin.surrogate.recording.rendering false = (.ok rendering, behind) := by
    rw [Recording.rendering, attempt]
    exact rendered
  obtain ⟨after, published⟩ := Recording.publish_of_rendered last
  rw [attempt] at published
  rw [Origin.start_eq, published]
  exact ⟨_, rfl, rfl, formatter⟩

/-- On a device without subscriptions, neither this template nor the standard one can be evaluated
for the start of the epoch. -/
theorem publish_surrogate {recording : Recording}
    (chosen : recording.choice = .custom ⟨slottedSurrogate⟩)
    (zone : recording.zone = .utc) (device : recording.session.device = some (.steady .none))
    (epoch : recording.parent.creationMillis = 0) :
    (recording.publish false).1 = .error (.format (.encoding surrogateError)) := by
  have made : ZonedTimestamp.ofMillis .utc (recording.context false).parent.creationMillis =
      .ok epochStart := by
    rw [show (recording.context false).parent.creationMillis = 0 from epoch, ofMillis_zero]
  obtain ⟨behind, failed, formatter⟩ := runOn_renderSurrogate_of_none made recording.session
  rw [← device, ← zone] at failed
  obtain ⟨reported, attempt⟩ := Recording.lastAttempt_of_failed chosen failed
  refine Recording.publish_eq_error_iff.2 ⟨Recording.raises_iff_render.2 ?_, ?_⟩
  · rw [chosen]
    exact ⟨_, _, failed⟩
  · rw [Recording.dateFault?, attempt, formatter, zone]
    exact dateFault?_of_made made _

/-- A generator of a template with a surrogate in a pattern, whose next update will fail to write a
date though the call has a timestamp. -/
theorem exists_surrogate : ∃ generator, Reaches .surrogate generator ∧
    ZonedTimestamp.ofMillis generator.recording.zone
      generator.recording.parent.creationMillis = .ok epochStart ∧
    generator.publication.template = Template.standard ∧
    generator.recording.session.formatter = .standard ∧
    generator.answer (.update false) = .error (.fault (.format (.encoding surrogateError))) := by
  obtain ⟨first, started, template, formatter⟩ := exists_start_surrogate
  obtain ⟨session, recorded⟩ := Origin.recording_of_start started
  obtain ⟨count, present⟩ := Origin.device_of_start started
  let answering : Action := .surroundings (.steady .none) .absent
  have reached := (Reaches.start started).step answering
  have zone : (first.perform answering).recording.zone = .utc := by
    rw [Generator.perform, recorded]
    rfl
  have device : (first.perform answering).recording.session.device = some (.steady .none) := by
    rw [Generator.perform, Session.answering, present]
    rfl
  have epoch : (first.perform answering).recording.parent.creationMillis = 0 := by
    rw [Generator.perform, recorded]
    rfl
  refine ⟨_, reached, ?_, template, formatter, Generator.answer_eq_fault_iff.2 ⟨_, _, rfl,
    publish_surrogate (reached.choice.trans choice_surrogate) zone device epoch⟩⟩
  rw [zone, epoch, ofMillis_zero]

/-- An update can fail though the call has a timestamp, and put another formatter in force. -/
theorem timestamp_unwritten : ∃ generator, Reaches .surrogate generator ∧
    ZonedTimestamp.ofMillis generator.recording.zone
      generator.recording.parent.creationMillis = .ok epochStart ∧
    generator.answer (.update false) = .error (.fault (.format (.encoding surrogateError))) ∧
    generator.recording.session.formatter = .standard ∧
    (generator.perform (.update false)).recording.session.formatter ≠ .standard := by
  obtain ⟨generator, reached, made, _, formatter, failed⟩ := exists_surrogate
  refine ⟨generator, reached, made, failed, formatter, fun same => ?_⟩
  have unwritten := (Generator.unwritten_of_format failed).formatter
  rw [same] at unwritten
  cases unwritten

end Surrogate

end RecordingName
