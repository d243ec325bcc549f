import RecordingName.Proofs.Generator.Publishing
import RecordingName.Proofs.Generator.Run
import RecordingName.Proofs.Naming.Standard
import RecordingName.Proofs.Template.RoundTrip

/-!
# Attempts to make a filename

An action makes the filename anew, for the recording that `Generator.request?` gives, or
leaves all alone that a filename is made of. An attempt fails if the chosen template cannot be
evaluated and something stands in the way of the date in the standard one, by
`Recording.publish_eq_error_iff`: the call has no timestamp, or the formatter that is left behind
cannot write it. `Since` holds between a publication and the generators that still show it, by
`Reaches.since`. The filename is the same in both, and so is the date as long as the formatter can
write: `Since.sameDate`. The template is chosen once for all; one without patterns never changes
the formatter, and one whose patterns can be written by never leaves another one behind:
`Reaches.formatter_of_unpatterned`, `Reaches.isEncodable`.
-/

namespace RecordingName

open Naming Template

/-- Without patterns in a template, neither that nor the standard one changes the formatter. -/
theorem Template.keeps_unpatterned {chosen : Template} (unpatterned : Unpatterned chosen.segments)
    (zone : Zone) (context : Context) (template : Template)
    (attempted : template = chosen ∨ template = Template.standard) (target : Reference)
    (member : .reference target ∈ template.segments) :
    Keeps SameFormatter (resolve zone context target) := by
  rcases attempted with rfl | rfl
  · exact Naming.sameFormatter_of_unpatterned zone context unpatterned member
  · exact Naming.sameFormatter_of_unpatterned zone context unpatterned_standard member

/-- With patterns in a template that can be written by, neither that nor the standard one takes from a
session that its formatter can write. -/
theorem Template.keeps_writable {chosen : Template} (writable : Writable chosen.segments)
    (zone : Zone) (context : Context) (template : Template)
    (attempted : template = chosen ∨ template = Template.standard) (target : Reference)
    (member : .reference target ∈ template.segments) :
    Keeps StaysEncodable (resolve zone context target) := by
  rcases attempted with rfl | rfl
  · exact staysEncodable_of_writable zone context writable member
  · exact staysEncodable_of_writable zone context unpatterned_standard.writable member

namespace Recording

variable {mayBlock : Bool} {recording : Recording}

/-- The chosen template cannot be evaluated. -/
def Raises (mayBlock : Bool) (recording : Recording) : Prop :=
  ∃ fault behind, runOn (evaluate recording.choice.template recording.zone
    (recording.context mayBlock)) recording.session = (.error fault, behind)

/-- What stands in the way of the date in the standard template when that is evaluated last. -/
def dateFault? (mayBlock : Bool) (recording : Recording) : Option Fault :=
  Naming.dateFault? recording.zone (recording.context mayBlock)
    (recording.lastAttempt mayBlock).2.formatter

/-- A template cannot be evaluated exactly if its segments cannot be rendered. -/
theorem raises_iff_render : recording.Raises mayBlock ↔
    ∃ fault behind, runOn (renderSegments (resolve recording.zone (recording.context mayBlock))
      recording.choice.template.segments) recording.session = (.error fault, behind) := by
  unfold Raises
  rw [runOn_evaluate]
  cases runOn (renderSegments (resolve recording.zone (recording.context mayBlock))
      recording.choice.template.segments) recording.session with
  | mk result behind => cases result <;> simp

/-- In place of a template that cannot be evaluated the standard one is. -/
theorem lastAttempt_of_raises (raises : recording.Raises mayBlock) :
    (recording.lastAttempt mayBlock).1 = Template.standard := by
  obtain ⟨fault, behind, failed⟩ := raises_iff_render.1 raises
  cases chosen : recording.choice with
  | standard => rw [lastAttempt_of_standard chosen]
  | custom template =>
      rw [chosen] at failed
      obtain ⟨log, attempt⟩ := lastAttempt_of_failed chosen failed
      rw [attempt]

/-- If the chosen template can be rendered, the filename is made of that. -/
theorem publish_of_chosen {rendering : Rendering} {behind : Session}
    (rendered : runOn (renderSegments (resolve recording.zone (recording.context mayBlock))
      recording.choice.template.segments) recording.session = (.ok rendering, behind)) :
    ∃ publication after, recording.publish mayBlock = (.ok publication, after) ∧
      publication.value = Filename.sanitize rendering.text := by
  have last : recording.rendering mayBlock = (.ok rendering, behind) := by
    cases chosen : recording.choice with
    | standard =>
        rw [chosen] at rendered
        rw [Recording.rendering, lastAttempt_of_standard chosen]
        exact rendered
    | custom template =>
        rw [chosen] at rendered
        exact (rendering_of_custom chosen rendered).2
  obtain ⟨log, published⟩ := publish_of_rendered last
  exact ⟨_, _, published, rfl⟩

/-- Publishing fails exactly if the chosen template cannot be evaluated and something stands in the
way of the date in the standard one, and for that. -/
theorem publish_eq_error_iff {fault : Fault} :
    (recording.publish mayBlock).1 = .error fault ↔
      recording.Raises mayBlock ∧ recording.dateFault? mayBlock = some fault := by
  cases ran : runOn (renderSegments (resolve recording.zone (recording.context mayBlock))
      recording.choice.template.segments) recording.session with
  | mk result behind =>
      cases result with
      | ok rendering =>
          obtain ⟨publication, after, published, _⟩ := publish_of_chosen ran
          rw [published, raises_iff_render, ran]
          simp
      | error cause =>
          have raises := raises_iff_render.2 ⟨cause, behind, ran⟩
          have standard : recording.rendering mayBlock =
              runOn (renderSegments (resolve recording.zone (recording.context mayBlock))
                Template.standard.segments) (recording.lastAttempt mayBlock).2 := by
            rw [Recording.rendering, lastAttempt_of_raises raises]
          rw [and_iff_right raises, dateFault?]
          cases found : Naming.dateFault? recording.zone (recording.context mayBlock)
              (recording.lastAttempt mayBlock).2.formatter with
          | some obstacle =>
              obtain ⟨after, failed⟩ := runOn_renderStandard_of_fault found
              rw [publish_of_failed (standard.trans failed)]
              simp
          | none =>
              obtain ⟨rendering, after, rendered⟩ := runOn_renderStandard_of_no_fault found
              obtain ⟨log, published⟩ := publish_of_rendered (standard.trans rendered)
              rw [published]
              simp

/-- Publishing fails if the chosen template cannot be rendered and leaves something behind that
stands in the way of the date in the standard one. -/
theorem publish_fails_of_failed {fault obstacle : Fault} {behind : Session}
    (failed : runOn (renderSegments (resolve recording.zone (recording.context mayBlock))
      recording.choice.template.segments) recording.session = (.error fault, behind))
    (found : Naming.dateFault? recording.zone (recording.context mayBlock) behind.formatter =
      some obstacle) :
    ∃ cause, (recording.publish mayBlock).1 = .error cause := by
  cases chosen : recording.choice with
  | standard =>
      have last : recording.rendering mayBlock = (.error fault, behind) := by
        rw [chosen] at failed
        rw [Recording.rendering, lastAttempt_of_standard chosen]
        exact failed
      exact ⟨fault, by rw [publish_of_failed last]⟩
  | custom template =>
      refine ⟨obstacle, publish_eq_error_iff.2 ⟨raises_iff_render.2 ⟨fault, behind, failed⟩, ?_⟩⟩
      rw [chosen] at failed
      obtain ⟨log, attempt⟩ := lastAttempt_of_failed chosen failed
      rw [dateFault?, attempt]
      exact found

/-- Publishing fails only for want of a timestamp, or because the formatter that is left behind
cannot write it. -/
theorem publish_fault {fault : Fault} (failed : (recording.publish mayBlock).1 = .error fault) :
    (∃ error, fault = .instant error ∧
      ZonedTimestamp.ofMillis recording.zone recording.parent.creationMillis = .error error ∧
      SameDate recording.session (recording.publish mayBlock).2.session) ∨
    ∃ stamp error, fault = .format (.encoding error) ∧
      ZonedTimestamp.ofMillis recording.zone recording.parent.creationMillis = .ok stamp ∧
      (recording.publish mayBlock).2.session.timestamp = some stamp ∧
      (recording.publish mayBlock).2.session.formatter.encodingError? = some error := by
  obtain ⟨raises, found⟩ := publish_eq_error_iff.1 failed
  rw [dateFault?] at found
  cases made : ZonedTimestamp.ofMillis recording.zone recording.parent.creationMillis with
  | error error =>
      rw [dateFault?_of_error made] at found
      cases found
      exact .inl ⟨error, rfl, rfl, publish_kept SameDate.drift mayBlock recording
        fun _ _ target _ => sameDate_of_error made target⟩
  | ok stamp =>
      rw [dateFault?_of_made made, Option.map_eq_some_iff] at found
      obtain ⟨error, unencodable, rfl⟩ := found
      obtain ⟨log, unwritten⟩ := @runOn_renderStandard_of_unencodable recording.zone
        (recording.context mayBlock) stamp error _ made unencodable
      rw [← lastAttempt_of_raises raises] at unwritten
      rw [publish_of_failed unwritten]
      exact .inr ⟨stamp, error, rfl, rfl, rfl, unencodable⟩

/-- A filename is made if nothing stands in the way of the date in the standard template. -/
theorem exists_publication_of_clear (clear : recording.dateFault? mayBlock = none) :
    ∃ publication after, recording.publish mayBlock = (.ok publication, after) := by
  cases published : recording.publish mayBlock with
  | mk result after =>
      cases result with
      | ok publication => exact ⟨publication, after, rfl⟩
      | error fault =>
          have found := (publish_eq_error_iff.1 (congrArg Prod.fst published)).2
          rw [clear] at found
          cases found

/-- A call that has a timestamp gets a filename, if the formatter in force can write and so can
those of the patterns in the chosen template. -/
theorem exists_publication {stamp : ZonedTimestamp}
    (made : ZonedTimestamp.ofMillis recording.zone recording.parent.creationMillis =
      .ok stamp)
    (writable : Writable recording.choice.template.segments)
    (encodable : recording.session.formatter.IsEncodable) (mayBlock : Bool) :
    ∃ publication after, recording.publish mayBlock = (.ok publication, after) := by
  have stays := lastAttempt_kept StaysEncodable.drift mayBlock recording
    (keeps_writable writable _ _) encodable
  apply exists_publication_of_clear
  rw [dateFault?, dateFault?_of_made made, stays]
  rfl

end Recording

/-- A call that has a timestamp can be given a first filename, if the patterns in the template can
be written by. -/
theorem Origin.exists_start {origin : Origin} {stamp : ZonedTimestamp}
    (made : ZonedTimestamp.ofMillis origin.zone origin.parent.creationMillis = .ok stamp)
    (writable : Writable origin.recording.choice.template.segments) :
    ∃ generator, origin.start = .ok generator := by
  obtain ⟨publication, after, published⟩ :=
    @Recording.exists_publication origin.recording stamp made writable rfl false
  rw [Origin.start_eq, published]
  exact ⟨_, rfl⟩

/-- Publishing may put questions to the device, and does nothing else to it. -/
theorem Recording.movesOn_publish (mayBlock : Bool) (recording : Recording) :
    MovesOn recording.session (recording.publish mayBlock).2.session :=
  publish_kept MovesOn.drift mayBlock recording fun _ _ target _ => movesOn_resolve _ _ target

/-- Behind the first filename the device is that of the origin, behind some questions. -/
theorem Origin.device_of_start {origin : Origin} {generator : Generator}
    (started : origin.start = .ok generator) :
    ∃ count, generator.recording.session.device = origin.device.map (Device.after count) := by
  have moves := Recording.movesOn_publish false origin.recording
  rw [(Origin.publish_of_start started).1] at moves
  exact moves

/-- A custom template that can be rendered makes the first filename. -/
theorem Origin.start_of_rendered {origin : Origin} {template : Template} {rendering : Rendering}
    {behind : Session} (chosen : origin.recording.choice = .custom template)
    (rendered : runOn (renderSegments (resolve origin.recording.zone
      (origin.recording.context false)) template.segments) origin.recording.session =
        (.ok rendering, behind)) :
    ∃ generator, origin.start = .ok generator ∧
      generator.publication = Publication.ofRendering template rendering behind.redactor ∧
      SameDate behind generator.recording.session := by
  obtain ⟨attempt, made⟩ := Recording.rendering_of_custom chosen rendered
  obtain ⟨log, published⟩ := Recording.publish_of_rendered made
  rw [attempt] at published
  have started := origin.start_eq
  rw [published] at started
  exact ⟨_, started, rfl, rfl, rfl⟩

/-- A custom template with a date at its end makes the first filename if the segments before the date
can be rendered and the formatter of the date can write. -/
theorem Origin.start_of_dated {origin : Origin} {stamp : ZonedTimestamp} {front : List Segment}
    {rendering : Rendering} {middle : Session} {argument : Option Text}
    (made : ZonedTimestamp.ofMillis origin.zone origin.parent.creationMillis = .ok stamp)
    (rendered : runOn (renderSegments (resolve origin.recording.zone
      (origin.recording.context false)) front) origin.recording.session = (.ok rendering, middle))
    (chosen : origin.recording.choice =
      .custom ⟨front ++ [.reference ⟨Variable.date.name, argument⟩]⟩)
    (encodable : (chosenFormatter middle.formatter argument).IsEncodable) :
    ∃ generator, origin.start = .ok generator ∧
      generator.publication.template =
        ⟨front ++ [.reference ⟨Variable.date.name, argument⟩]⟩ ∧
      generator.publication.value = Filename.sanitize (rendering.text ++
        (chosenFormatter middle.formatter argument).write stamp) ∧
      generator.recording.session.timestamp = some stamp ∧
      generator.recording.session.formatter = chosenFormatter middle.formatter argument := by
  obtain ⟨log, dated⟩ :=
    @runOn_resolveDate_of_ok origin.recording.zone (origin.recording.context false) _ made argument
      middle encodable
  have last : runOn (renderSegments (resolve origin.recording.zone
      (origin.recording.context false)) [.reference ⟨Variable.date.name, argument⟩]) middle =
        (.ok [(.reference ⟨Variable.date.name, argument⟩, _)], _) :=
    runOn_render_reference.2 ⟨_, _, [], dated, rfl, rfl⟩
  obtain ⟨generator, started, publication, timestamp, formatter⟩ :=
    start_of_rendered chosen (runOn_render_append.2 ⟨_, _, _, rendered, last, rfl⟩)
  refine ⟨generator, started, ?_, ?_, timestamp, formatter⟩
  · rw [publication]
    rfl
  · rw [publication]
    simp [Publication.ofRendering, Rendering.text_append]

namespace Generator

variable {action : Action} {generator published : Generator} {recording : Recording}
  {mayBlock : Bool}

/-- The recording for which an action makes the filename anew, if it does so, and whether that
may wait for a look-up. -/
def request? : Action → Generator → Option (Recording × Bool)
  | .update mayBlock, generator => some (generator.recording, mayBlock)
  | .details .parent details, generator =>
      some ({ generator.recording with parent := details }, false)
  | .details (.child number) details, generator =>
      some ({ generator.recording with
        children := generator.recording.children.put number details }, false)
  | .details .unrelated _, _ => none
  | .parse _, _ => none
  | .redaction _ _, _ => none
  | .surroundings _ _, _ => none

/-- The actions that request something, with what they request. -/
theorem request?_eq_some (requested : generator.request? action = some (recording, mayBlock)) :
    (action = .update mayBlock ∧ recording = generator.recording) ∨
    (∃ details, action = .details .parent details ∧ mayBlock = false ∧
      recording = { generator.recording with parent := details }) ∨
    ∃ number details, action = .details (.child number) details ∧ mayBlock = false ∧
      recording = { generator.recording with
        children := generator.recording.children.put number details } := by
  cases action with
  | update mayBlock =>
      cases requested
      exact .inl ⟨rfl, rfl⟩
  | details line details =>
      cases line with
      | parent =>
          cases requested
          exact .inr (.inl ⟨details, rfl, rfl, rfl⟩)
      | child number =>
          cases requested
          exact .inr (.inr ⟨number, details, rfl, rfl, rfl⟩)
      | unrelated => cases requested
  | parse name => cases requested
  | redaction source placeholder => cases requested
  | surroundings device directory => cases requested

/-- An action with a request is an attempt to make the filename anew. -/
theorem perform_of_request (requested : generator.request? action = some (recording, mayBlock)) :
    generator.perform action = (update mayBlock { generator with recording }).2 := by
  obtain ⟨rfl, rfl⟩ | ⟨details, rfl, rfl, rfl⟩ | ⟨number, details, rfl, rfl, rfl⟩ :=
    request?_eq_some requested
  · rfl
  · exact perform_parent details generator
  · exact perform_child number details generator

/-- A request is about the recording at hand with new details. -/
theorem recording_of_request
    (requested : generator.request? action = some (recording, mayBlock)) :
    ∃ parent children, recording = { generator.recording with parent, children } := by
  obtain ⟨_, rfl⟩ | ⟨details, _, _, rfl⟩ | ⟨number, details, _, _, rfl⟩ :=
    request?_eq_some requested
  · exact ⟨_, _, rfl⟩
  · exact ⟨_, _, rfl⟩
  · exact ⟨_, _, rfl⟩

/-- An action without a request changes nothing but redactions, reports and the surroundings. -/
theorem perform_of_silent (silent : generator.request? action = none) :
    ∃ device directory redactor log, generator.perform action = { generator with
      recording.session := { generator.recording.session with
        device, directory, redactor, log } } := by
  cases action with
  | update mayBlock => cases silent
  | details line details =>
      cases line with
      | parent => cases silent
      | child number => cases silent
      | unrelated => exact ⟨_, _, _, _, rfl⟩
  | parse name => exact ⟨_, _, _, _, rfl⟩
  | redaction source placeholder => exact ⟨_, _, _, _, rfl⟩
  | surroundings device directory => exact ⟨_, _, _, _, rfl⟩

/-- The generators behind a publication that have published nothing since. -/
inductive Since (published : Generator) : Generator → Prop where
  | here : Since published published
  | idle {generator : Generator} {action : Action} (prior : Since published generator)
      (silent : generator.request? action = none) : Since published (generator.perform action)
  | failed {generator : Generator} {action : Action} {recording : Recording} {mayBlock : Bool}
      {fault : Fault} (prior : Since published generator)
      (requested : generator.request? action = some (recording, mayBlock))
      (failed : (recording.publish mayBlock).1 = .error fault) :
      Since published (generator.perform action)

/-- A failed attempt changes the recording alone. -/
theorem perform_of_failed {fault : Fault}
    (requested : generator.request? action = some (recording, mayBlock))
    (failed : (recording.publish mayBlock).1 = .error fault) :
    generator.perform action = { generator with recording := (recording.publish mayBlock).2 } := by
  rw [perform_of_request requested,
    @update_of_failed mayBlock { generator with recording } fault
      (recording.publish mayBlock).2 (Prod.ext failed rfl)]

/-- What has been published still shows if nothing has been published since. -/
theorem Since.publication (since : Since published generator) :
    generator.publication = published.publication := by
  induction since with
  | here => rfl
  | idle prior silent inductionHypothesis =>
      obtain ⟨device, directory, redactor, log, performed⟩ := perform_of_silent silent
      rw [performed]
      exact inductionHypothesis
  | failed prior requested failed inductionHypothesis =>
      rw [perform_of_failed requested failed]
      exact inductionHypothesis

/-- The timestamp and the formatter are those of the publication if nothing has been published
since, and the formatter can write: no attempt has failed then because it cannot. -/
theorem Since.sameDate (since : Since published generator)
    (encodable : generator.recording.session.formatter.IsEncodable) :
    SameDate published.recording.session generator.recording.session := by
  induction since with
  | here => exact SameDate.drift.refl _
  | idle prior silent inductionHypothesis =>
      obtain ⟨device, directory, redactor, log, performed⟩ := perform_of_silent silent
      rw [performed] at encodable ⊢
      exact inductionHypothesis encodable
  | failed prior requested failed inductionHypothesis =>
      have left := Recording.publish_fault failed
      obtain ⟨parent, children, rfl⟩ := recording_of_request requested
      rw [perform_of_failed requested failed] at encodable ⊢
      rcases left with ⟨_, _, _, kept⟩ | ⟨_, error, _, _, _, unencodable⟩
      · refine SameDate.drift.trans (inductionHypothesis ?_) kept
        rw [kept.2] at encodable
        exact encodable
      · exact absurd (encodable.symm.trans unencodable) (by simp)

/-- No action exchanges the chosen template. -/
theorem perform_choice (action : Action) (generator : Generator) :
    (generator.perform action).recording.choice = generator.recording.choice := by
  refine @perform_induction (fun after => after.recording.choice = generator.recording.choice)
    generator ?_ ?_ ?_ action
  · intro mayBlock parent children
    rw [update_recording]
    rfl
  · intro source placeholder
    rfl
  · intro provider directory log
    rfl

end Generator

variable {origin : Origin} {generator : Generator} {recording : Recording} {mayBlock : Bool}

/-- What an action of a generator requests, the generator's origin requests. -/
theorem Requests.of_request {action : Action} (reached : Reaches origin generator)
    (requested : generator.request? action = some (recording, mayBlock)) :
    Requests origin recording mayBlock := by
  obtain ⟨_, rfl⟩ | ⟨details, _, rfl, rfl⟩ | ⟨number, details, _, rfl, rfl⟩ :=
    Generator.request?_eq_some requested
  · exact .update reached mayBlock
  · exact .parent reached details
  · exact .child reached number details

/-- Every generator shows what the last attempt that succeeded has published. -/
theorem Reaches.since (reached : Reaches origin generator) :
    ∃ recording mayBlock published, Publishes origin recording mayBlock published ∧
      published.Since generator := by
  induction reached with
  | @start generator started =>
      exact ⟨_, _, generator, .of_start started, .here⟩
  | @step generator prior action inductionHypothesis =>
      cases requested : generator.request? action with
      | none =>
          obtain ⟨recording, mayBlock, published, publishes, since⟩ := inductionHypothesis
          exact ⟨recording, mayBlock, published, publishes, since.idle requested⟩
      | some request =>
          obtain ⟨recording, mayBlock⟩ := request
          cases made : recording.publish mayBlock with
          | mk result after =>
              cases result with
              | ok publication =>
                  have performed : generator.perform action = .publishing after publication := by
                    rw [Generator.perform_of_request requested,
                      @Generator.update_of_published mayBlock { generator with recording } _ _ made]
                  rw [performed]
                  exact ⟨recording, mayBlock, _,
                    .of_published (.of_request prior requested) made, .here⟩
              | error fault =>
                  obtain ⟨before, blocked, published, publishes, since⟩ := inductionHypothesis
                  exact ⟨before, blocked, published, publishes,
                    since.failed requested (congrArg Prod.fst made)⟩

/-- The chosen template is that of the origin from the start on. -/
theorem Reaches.choice (reached : Reaches origin generator) :
    generator.recording.choice = origin.recording.choice := by
  induction reached with
  | @start generator started =>
      have made : (origin.recording.publish false).2 = generator.recording :=
        congrArg Prod.snd (Origin.publish_of_start started).1
      rw [← made]
      rfl
  | step prior action inductionHypothesis =>
      exact (Generator.perform_choice action _).trans inductionHypothesis

/-- The template that was chosen at construction is never chosen again. -/
theorem Requests.choice (requested : Requests origin recording mayBlock) :
    recording.choice = origin.recording.choice := by
  cases requested with
  | start => rfl
  | update prior mayBlock => exact prior.choice
  | parent prior details => exact prior.choice
  | child prior number details => exact prior.choice

/-- A publication is made of a rendering of the template that is evaluated last. -/
theorem Publishes.exists_rendering {published : Generator}
    (publishes : Publishes origin recording mayBlock published) :
    ∃ template session rendering behind log,
      recording.lastAttempt mayBlock = (template, session) ∧
      runOn (renderSegments (resolve recording.zone (recording.context mayBlock))
        template.segments) session = (.ok rendering, behind) ∧
      published.publication = Publication.ofRendering template rendering behind.redactor ∧
      published.recording = { recording with session := { behind with log } } := by
  obtain ⟨rendering, behind, log, ran, publication, after⟩ :=
    Recording.publish_eq_ok publishes.published
  exact ⟨_, _, rendering, behind, log, rfl, ran, publication, after⟩

/-- What a generator shows was made, by an attempt of its origin, of a rendering of the template
that is shown, and the date is the one that this rendering has left behind as long as the formatter
can write. -/
theorem Reaches.exists_rendering (reached : Reaches origin generator) :
    ∃ recording mayBlock session rendering behind, Requests origin recording mayBlock ∧
      recording.lastAttempt mayBlock = (generator.publication.template, session) ∧
      runOn (renderSegments (resolve recording.zone (recording.context mayBlock))
        generator.publication.template.segments) session = (.ok rendering, behind) ∧
      generator.publication.value = Filename.sanitize rendering.text ∧
      (generator.recording.session.formatter.IsEncodable →
        SameDate behind generator.recording.session) := by
  obtain ⟨recording, mayBlock, published, publishes, since⟩ := reached.since
  obtain ⟨template, session, rendering, behind, log, attempt, rendered, publication, after⟩ :=
    publishes.exists_rendering
  have same := since.sameDate
  rw [after] at same
  rw [since.publication, publication]
  exact ⟨recording, mayBlock, session, rendering, behind, publishes.requested, attempt, rendered,
    rfl, same⟩

/-- What a generator shows was made with the chosen template or with the standard one. -/
theorem Reaches.publication_template (reached : Reaches origin generator) :
    generator.publication.template = origin.recording.choice.template ∨
      generator.publication.template = Template.standard := by
  obtain ⟨recording, mayBlock, session, _, _, requested, attempt, _⟩ := reached.exists_rendering
  have either := recording.lastAttempt_template mayBlock
  rw [attempt, requested.choice] at either
  exact either

/-- What every answer keeps, in whatever zone and for whatever call, has been kept since the origin if
it does not depend on the surroundings: attempts keep it, and so does what else happens to a
session. -/
theorem Reaches.kept {relation : Session → Session → Prop} (drift : Drift relation)
    (surroundings : ∀ (session : Session) device directory log,
      relation session { session with device, directory, log })
    (each : ∀ (zone : Zone) (context : Context) (template : Template),
      template = origin.recording.choice.template ∨ template = Template.standard →
        ∀ target, .reference target ∈ template.segments →
          Keeps relation (resolve zone context target))
    (reached : Reaches origin generator) :
    relation origin.recording.session generator.recording.session := by
  induction reached with
  | start started =>
      have kept := Recording.publish_kept drift false origin.recording (each _ _)
      rw [(Origin.publish_of_start started).1] at kept
      exact kept
  | @step generator prior action inductionHypothesis =>
      rw [← prior.choice] at each
      refine @Generator.perform_induction
        (fun after => relation origin.recording.session after.recording.session) generator
        ?_ ?_ ?_ action
      · intro mayBlock parent children
        rw [Generator.update_recording]
        exact drift.trans inductionHypothesis (Recording.publish_kept drift mayBlock
          { generator.recording with parent, children } (each _ _))
      · intro source placeholder
        exact drift.trans inductionHypothesis (drift.hide _ source placeholder)
      · intro device directory log
        exact drift.trans inductionHypothesis (surroundings _ device directory log)

theorem Requests.kept {relation : Session → Session → Prop} (drift : Drift relation)
    (surroundings : ∀ (session : Session) device directory log,
      relation session { session with device, directory, log })
    (each : ∀ (zone : Zone) (context : Context) (template : Template),
      template = origin.recording.choice.template ∨ template = Template.standard →
        ∀ target, .reference target ∈ template.segments →
          Keeps relation (resolve zone context target))
    (requested : Requests origin recording mayBlock) :
    relation origin.recording.session recording.session := by
  cases requested with
  | start => exact drift.refl _
  | update prior mayBlock => exact prior.kept drift surroundings each
  | parent prior details => exact prior.kept drift surroundings each
  | child prior number details => exact prior.kept drift surroundings each

/-- Without patterns in the template of its origin, a generator has the standard formatter. -/
theorem Reaches.formatter_of_unpatterned
    (unpatterned : Unpatterned origin.recording.choice.template.segments)
    (reached : Reaches origin generator) :
    generator.recording.session.formatter = .standard :=
  reached.kept SameFormatter.drift (fun _ _ _ _ => rfl) (keeps_unpatterned unpatterned)

/-- Where no date of the template has a pattern, no attempt meets another formatter than the default
one. -/
theorem Requests.formatter_of_unpatterned
    (unpatterned : Unpatterned origin.recording.choice.template.segments)
    (requested : Requests origin recording mayBlock) :
    recording.session.formatter = .standard :=
  requested.kept SameFormatter.drift (fun _ _ _ _ => rfl) (keeps_unpatterned unpatterned)

/-- Without patterns in the template of the origin, the standard formatter is in force when the
last attempt starts. -/
theorem Requests.lastAttempt_formatter
    (unpatterned : Unpatterned origin.recording.choice.template.segments)
    (requested : Requests origin recording mayBlock) :
    (recording.lastAttempt mayBlock).2.formatter = .standard :=
  (Recording.lastAttempt_kept SameFormatter.drift mayBlock recording
    (keeps_unpatterned (requested.choice ▸ unpatterned) _ _)).trans
      (requested.formatter_of_unpatterned unpatterned)

/-- If the patterns in the template of its origin can be written by, a generator has a formatter
that can write. -/
theorem Reaches.isEncodable (writable : Writable origin.recording.choice.template.segments)
    (reached : Reaches origin generator) : generator.recording.session.formatter.IsEncodable :=
  reached.kept StaysEncodable.drift (fun _ _ _ _ => id) (keeps_writable writable) rfl

/-- Where every pattern of the template can be written, every attempt meets a formatter that can
write. -/
theorem Requests.isEncodable (writable : Writable origin.recording.choice.template.segments)
    (requested : Requests origin recording mayBlock) : recording.session.formatter.IsEncodable :=
  requested.kept StaysEncodable.drift (fun _ _ _ _ => id) (keeps_writable writable) rfl

/-- The first call of the epoch, whose recording is named by a template with the given
segments. -/
def Origin.named (segments : List Segment) : Origin where
  templateText := some (Template.print ⟨segments⟩)
  zone := .utc
  directory := .absent
  parent := Details.ofMillis 0
  children := []

/-- The start of the epoch in universal time. -/
def epochStart : ZonedTimestamp := ⟨⟨1970, 1, 1⟩, .midnight, .utc⟩

theorem ofMillis_zero : ZonedTimestamp.ofMillis .utc 0 = .ok epochStart := rfl

theorem Origin.choice_named {segments : List Segment} (known : IsNormal segments) :
    (named segments).recording.choice = .custom ⟨segments⟩ := by
  rw [recording_choice, named, TemplateChoice.load]
  simp only [known.parse_print]

end RecordingName
