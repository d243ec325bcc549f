import RecordingName.Proofs.Generator.Fallback

/-!
# What a generator shows

A generator changes its filename, the locations at which it reads dates, its formatter and its
timestamp in different steps of its work, and any of these steps may be the last one. Still
they fit together in every generator, by `shows_of_reaches`: the filename is the one that the
last successful attempt has made of a template, the locations are those of that template, and the
last date in it is the timestamp in the formatter that the generator has now. Only a formatter
that cannot write does not fit: `unwritable_in_force`.
-/

namespace RecordingName

open DateFormat Naming Template

namespace Generator

/-- The filename that a generator shows was made, by the last attempt that succeeded, of a
rendering of a template. -/
def MadeOf (origin : Origin) (template : Template) (rendering : Rendering)
    (generator : Generator) : Prop :=
  ∃ recording mayBlock published session behind,
    Publishes origin recording mayBlock published ∧ published.Since generator ∧
    recording.lastAttempt mayBlock = (template, session) ∧
    runOn (renderSegments (resolve recording.zone (recording.context mayBlock)) template.segments)
      session = (.ok rendering, behind) ∧
    runOn (template.evaluate (resolve recording.zone (recording.context mayBlock))) session =
      (.ok rendering.text, behind)

/-- A rendering of a template fits what a generator shows: the filename, the locations at which it
reads dates, and its timestamp in its formatter, which the last date in the template stood for. The
date fits exactly as long as the formatter can write. -/
structure Shows (template : Template) (rendering : Rendering) (generator : Generator) : Prop where
  segments : rendering.map (·.1) = template.segments
  value : generator.publication.value = Filename.sanitize rendering.text
  locations : generator.locations = template.dateLocations
  dated : ∀ first target text last, rendering = first ++ (.reference target, text) :: last →
    target.name = Variable.date.name → dates (last.map (·.1)) = [] →
    ((∃ stamp, generator.recording.session.timestamp = some stamp ∧
        generator.recording.session.formatter.format stamp.toTimestamp = .ok text) ↔
      generator.recording.session.formatter.IsEncodable)

end Generator

variable {origin : Origin} {generator published : Generator} {recording : Recording}
  {mayBlock : Bool} {template : Template} {rendering : Rendering} {session behind : Session}

/-- Evaluating a template gives the text of its rendering. -/
theorem Template.runOn_evaluate {answer : Reference → Evaluation (Option Text)}
    (rendered : runOn (renderSegments answer template.segments) session =
      (.ok rendering, behind)) :
    runOn (template.evaluate answer) session = (.ok rendering.text, behind) := by
  rw [Template.evaluate, evaluateSegments_eq_render, map_eq_pure_bind, runOn_bind, rendered]
  rfl

/-- The last date of a rendering is the timestamp behind it, in the formatter behind it. -/
theorem Naming.last_date_of_render {zone : Zone} {context : Context} {segments : List Segment}
    {target : Reference} {text : Text} {first last : Rendering}
    (rendered : runOn (renderSegments (resolve zone context) segments) session =
      (.ok rendering, behind))
    (split : rendering = first ++ (.reference target, text) :: last)
    (dated : target.name = Variable.date.name) (undated : dates (last.map (·.1)) = []) :
    ∃ stamp, behind.timestamp = some stamp ∧ behind.formatter.write stamp = text := by
  obtain ⟨stamp, _, shown, timestamp⟩ := dated_of_render rendered split dated
  refine ⟨stamp, timestamp, ?_⟩
  have shape := segments_of_render rendered
  rw [split, List.map_append, List.map_cons, List.append_cons] at shape
  rw [shown, runOn_render_formatter rendered, ← shape, formatterBehind_append,
    formatterBehind_of_undated _ undated]

/-- In every generator the filename, the locations at which it reads dates, its formatter and its
timestamp fit together, whatever has happened to it, as long as the formatter can write: they come
from one rendering, of the chosen template or of the standard one, that the last successful attempt
has made. The formatter can always write if the patterns in the chosen template can be written
by. -/
theorem shows_of_reaches (reached : Reaches origin generator) :
    (∃ template rendering,
      (template = origin.recording.choice.template ∨ template = Template.standard) ∧
        generator.MadeOf origin template rendering ∧ generator.Shows template rendering) ∧
    (Writable origin.recording.choice.template.segments →
      generator.recording.session.formatter.IsEncodable) := by
  refine ⟨?_, fun writable => reached.isEncodable writable⟩
  obtain ⟨recording, mayBlock, published, publishes, since⟩ := reached.since
  obtain ⟨template, session, rendering, behind, log, attempt, rendered, publication, after⟩ :=
    publishes.exists_rendering
  refine ⟨template, rendering, ?_, ⟨recording, mayBlock, published, session, behind, publishes,
    since, attempt, rendered, runOn_evaluate rendered⟩, ?_⟩
  · rw [← publishes.requested.choice]
    have chosen := Recording.lastAttempt_template mayBlock recording
    rw [attempt] at chosen
    exact chosen
  constructor
  · exact segments_of_render rendered
  · rw [since.publication, publication]
    rfl
  · rw [reached.located, since.publication, publication]
    rfl
  · intro first target text last split dated undated
    obtain ⟨stamp, timestamp, written⟩ := last_date_of_render rendered split dated undated
    constructor
    · rintro ⟨_, _, formatted⟩
      exact (Formatter.format_eq_ok_iff.1 formatted).1
    · intro encodable
      obtain ⟨same_timestamp, same_formatter⟩ := since.sameDate encodable
      rw [after] at same_timestamp same_formatter
      refine ⟨stamp, same_timestamp.trans timestamp, Formatter.format_eq_ok_iff.2 ⟨encodable, ?_⟩⟩
      rw [same_formatter]
      exact written

/-- A call on a device with two subscriptions, which is named by its slot and its year. -/
def Origin.asking : Origin :=
  { Origin.named slottedYear with
    device := some (.steady (.ofSlots [("first".text, 0), ("second".text, 1)] true))
    parent := { Details.ofMillis 1651255369123 with account := some "second".text } }

/-- The device stops answering, so that new details are named by the standard template, and then
details come in that have no timestamp. -/
def Origin.askingActions : List Action :=
  [.surroundings (.steady { Subscriptions.none with hasTelephony := .error [] }) .absent,
    .details .parent (.ofMillis 1), .details .parent (.ofMillis 100000000000000000000),
    .parse "1970".text]

theorem writable_asking : Writable Origin.asking.recording.choice.template.segments := by
  have chosen : Origin.asking.recording.choice = .custom ⟨slottedYear⟩ :=
    Origin.choice_named isNormal_slottedYear
  rw [chosen]
  exact writable_slottedYear

/-- Behind such a device, and an update that fails, the generator shows what it has published. -/
theorem shows_of_reaches_asking : ∃ generator, Origin.asking.start = .ok generator ∧
    (∃ template rendering,
      (template = Origin.asking.recording.choice.template ∨ template = Template.standard) ∧
        (generator.run Origin.askingActions).MadeOf Origin.asking template rendering ∧
        (generator.run Origin.askingActions).Shows template rendering) ∧
    (generator.run Origin.askingActions).recording.session.formatter.IsEncodable := by
  obtain ⟨generator, started⟩ := @Origin.exists_start Origin.asking _ rfl writable_asking
  obtain ⟨shown, encodable⟩ := shows_of_reaches (Reaches.run Origin.askingActions (.start started))
  exact ⟨generator, started, shown, encodable writable_asking⟩

/-- A failing update can put a formatter in force that writes no date, whereas the filename that is
still shown has one. -/
theorem unwritable_in_force : ∃ generator, Reaches .surrogate generator ∧
    generator.publication.template = Template.standard ∧
    dates Template.standard.segments ≠ [] ∧
    ∀ stamp, generator.recording.session.formatter.format stamp =
      .error (.encoding surrogateError) := by
  obtain ⟨generator, reached, _, template, _, failed⟩ := exists_surrogate
  have unwritten := Generator.unwritten_of_format failed
  refine ⟨_, reached.step (.update false), ?_, by decide,
    Formatter.format_of_encodingError unwritten.formatter⟩
  rw [unwritten.publication, template]

end RecordingName
