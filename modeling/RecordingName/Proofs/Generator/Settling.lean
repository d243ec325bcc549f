import Mathlib.Logic.Function.Iterate
import RecordingName.Proofs.Generator.Fallback
import RecordingName.Proofs.Generator.Latest
import RecordingName.Proofs.Naming.Changes

/-!
# Updates that settle

When nothing new is known of the calls and the device gives the same answers every time, how an
update goes depends on the formatter in force alone, by `Recording.exists_goesAgain`, and the next
update goes the same way on the formatter that is left behind. So either all updates fail, with the
same fault, or the first one brings the session where all later ones leave it, and from the second
on the filename stays the same: `updates_settle`. The first update gives another filename than the
second only if it starts with a formatter that a later date replaces.
-/

namespace RecordingName

open DateFormat Naming Template

namespace Recording

variable {recording : Recording} {template : Template} {before after : Change}
  {formatter : Formatter} {failure : Option Fault} {fault : Fault}
  {session other last rear : Session} {publication second : Publication}

/-- A session from which an attempt to make the filename of a recording starts with a formatter, and
with the device of the recording. -/
structure Starts (recording : Recording) (formatter : Formatter) (session : Session) : Prop where
  formatter : session.formatter = formatter
  device : session.device = recording.session.device

/-- How all attempts to make the filename of a recording go that start with a formatter: the template
that is evaluated last, what has changed when that starts, what changes then, and whether it
fails. -/
def Attempts (recording : Recording) (formatter : Formatter) (template : Template)
    (before after : Change) (failure : Option Fault) : Prop :=
  ∀ session, recording.Starts formatter session → ∃ start result behind,
    ({ recording with session } : Recording).lastAttempt false = (template, start) ∧
    before.Leads session start ∧
    runOn (renderSegments (resolve recording.zone (recording.context false)) template.segments)
      start = (result, behind) ∧
    failureOf result = failure ∧ after.Leads start behind

/-- All attempts that start with a formatter fail, and leave it as it is. -/
def FailsAgain (recording : Recording) (fault : Fault) (formatter : Formatter) : Prop :=
  ∀ session, recording.Starts formatter session →
    (({ recording with session } : Recording).publish false).1 = .error fault ∧
      recording.Starts formatter (({ recording with session } : Recording).publish false).2.session

/-- If the chosen template can be evaluated, or is the standard one, an attempt takes its course. -/
theorem attempts_of_chosen {course : Course}
    (takes : Takes recording.session.device course
      (renderSegments (resolve recording.zone (recording.context false))
        recording.choice.template.segments))
    (only : recording.choice = .standard ∨ course.failure formatter = none) :
    recording.Attempts formatter recording.choice.template .idle (course.change formatter)
      (course.failure formatter) := by
  rintro session ⟨rfl, device⟩
  obtain ⟨result, behind, ran, same, leads⟩ := takes session device
  refine ⟨session, result, behind, ?_, Change.idle_leads session, ran, same, leads⟩
  cases chosen : recording.choice with
  | standard =>
      have attempt := @lastAttempt_of_standard false { recording with session } chosen
      rw [chosen] at attempt
      exact attempt
  | custom template =>
      have succeeds := only.resolve_left (by rw [chosen]; exact TemplateChoice.noConfusion)
      rw [succeeds] at same
      rw [chosen] at ran
      cases result with
      | error cause => cases same
      | ok rendering =>
          have attempt := (@rendering_of_custom false { recording with session } _ _ _ chosen ran).1
          rw [chosen] at attempt
          exact attempt

/-- If a custom template cannot be evaluated, an attempt takes its course and that of the standard
template. -/
theorem attempts_of_fallback {course standard : Course} {custom : Template}
    (chosen : recording.choice = .custom custom)
    (takes : Takes recording.session.device course
      (renderSegments (resolve recording.zone (recording.context false)) custom.segments))
    (follows : Takes recording.session.device standard
      (renderSegments (resolve recording.zone (recording.context false))
        Template.standard.segments))
    (fails : course.failure formatter = some fault) :
    recording.Attempts formatter Template.standard (course.change formatter)
      (standard.change (course.behind formatter)) (standard.failure (course.behind formatter)) := by
  rintro session ⟨rfl, device⟩
  obtain ⟨result, middle, ran, failed, leads⟩ := takes session device
  rw [fails] at failed
  cases result with
  | ok rendering => cases failed
  | error cause =>
      obtain ⟨start, attempt, prepares⟩ : ∃ start,
          ({ recording with session } : Recording).lastAttempt false = (Template.standard, start) ∧
            (course.change session.formatter).Leads session start := by
        obtain ⟨log, attempt⟩ :=
          @lastAttempt_of_failed false { recording with session } _ _ _ chosen ran
        exact ⟨_, attempt, leads.reported log⟩
      obtain ⟨result, behind, rendered, same, onwards⟩ :=
        follows start (prepares.device.trans device)
      rw [prepares.formatter_eq] at same onwards
      exact ⟨start, result, behind, attempt, prepares, rendered, same, onwards⟩

/-- A failing attempt fails for its reason, and leaves the formatter that it leads to. -/
theorem Attempts.publish_of_failure
    (attempts : recording.Attempts formatter template before after (some fault))
    (starts : recording.Starts formatter session) :
    (({ recording with session } : Recording).publish false).1 = .error fault ∧
      recording.Starts ((before.andThen after).formatter.getD formatter)
        (({ recording with session } : Recording).publish false).2.session := by
  obtain ⟨start, result, behind, attempt, prepares, ran, failed, leads⟩ := attempts session starts
  cases result with
  | ok rendering => cases failed
  | error cause =>
      cases failed
      have unrendered : ({ recording with session } : Recording).rendering false =
          (.error fault, behind) := by
        rw [Recording.rendering, attempt]
        exact ran
      have leads_all := prepares.trans leads
      rw [publish_of_failed unrendered, ← starts.formatter]
      exact ⟨rfl, leads_all.formatter, leads_all.device.trans starts.device⟩

/-- If an attempt can be made with the standard template, the formatter that it starts with can
write. -/
theorem isEncodable_of_takes {standard : Course}
    (follows : Takes recording.session.device standard
      (renderSegments (resolve recording.zone (recording.context false))
        Template.standard.segments))
    (succeeds : standard.failure formatter = none) : formatter.IsEncodable := by
  obtain ⟨result, behind, ran, same, _⟩ := follows { recording.session with formatter } rfl
  rw [succeeds] at same
  cases found : Naming.dateFault? recording.zone (recording.context false) formatter with
  | none => exact isEncodable_of_clear found
  | some fault =>
      obtain ⟨after, failed⟩ := @runOn_renderStandard_of_fault recording.zone
        (recording.context false) { recording.session with formatter } fault found
      rw [ran] at failed
      cases failed
      cases same

/-- How attempts go from a formatter on, and again on the formatter that they leave behind: the same
way, or failing for the same reason. -/
structure GoesAgain (recording : Recording) (formatter : Formatter) (template : Template)
    (before after : Change) (failure : Option Fault) : Prop where
  attempts : recording.Attempts formatter template before after failure
  again : failure = none → recording.Attempts ((before.andThen after).formatter.getD formatter)
    template before after none
  fails : ∀ fault, failure = some fault →
    recording.FailsAgain fault ((before.andThen after).formatter.getD formatter)

/-- Attempts that fail, and that leave the formatter with which they start, fail again. -/
theorem Attempts.failsAgain
    (attempts : recording.Attempts formatter template before after (some fault))
    (stays : (before.andThen after).formatter.getD formatter = formatter) :
    recording.FailsAgain fault formatter := by
  intro session starts
  obtain ⟨failed, left⟩ := attempts.publish_of_failure starts
  rw [stays] at left
  exact ⟨failed, left⟩

/-- An attempt on the chosen template goes again if the course of that settles. -/
theorem goesAgain_of_chosen {course : Course} (settles : course.Settles)
    (takes : Takes recording.session.device course
      (renderSegments (resolve recording.zone (recording.context false))
        recording.choice.template.segments))
    (only : recording.choice = .standard ∨ course.failure formatter = none) :
    recording.GoesAgain formatter recording.choice.template .idle (course.change formatter)
      (course.failure formatter) := by
  have left (current : Formatter) :
      (Change.idle.andThen (course.change current)).formatter.getD current =
        course.behind current := by
    rw [Change.andThen, Option.getD_or]
    rfl
  refine ⟨attempts_of_chosen takes only, fun succeeds => ?_, fun fault fails => ?_⟩
  · have again := attempts_of_chosen takes (.inr ((settles.failure formatter).trans succeeds))
    rw [settles.change formatter (.inr succeeds), settles.failure, succeeds] at again
    rw [left]
    exact again
  · have standard := only.resolve_right (by rw [fails]; exact Option.some_ne_none fault)
    have again := @attempts_of_chosen recording (course.behind formatter) course takes
      (.inl standard)
    rw [settles.failure, fails] at again
    rw [left]
    exact again.failsAgain ((left _).trans (settles.behind formatter))

/-- An attempt that ends with the standard template goes again if the course of the custom one
settles: the standard one leaves the formatter that it starts with. -/
theorem goesAgain_of_fallback {course standard : Course} {custom : Template}
    (chosen : recording.choice = .custom custom) (settles : course.Settles)
    (takes : Takes recording.session.device course
      (renderSegments (resolve recording.zone (recording.context false)) custom.segments))
    (follows : Takes recording.session.device standard
      (renderSegments (resolve recording.zone (recording.context false))
        Template.standard.segments))
    (fails : course.failure formatter = some fault) :
    recording.GoesAgain formatter Template.standard (course.change formatter)
      (standard.change (course.behind formatter)) (standard.failure (course.behind formatter)) := by
  have kept (current : Formatter) : standard.behind current = current :=
    follows.behind_eq (Keeps.render SameFormatter.drift _ fun _ member =>
      Naming.sameFormatter_of_unpatterned recording.zone (recording.context false)
        unpatterned_standard member) { recording.session with formatter := current } rfl
  have left (current : Formatter) :
      ((course.change current).andThen
        (standard.change (course.behind current))).formatter.getD current =
          course.behind current := by
    rw [Change.andThen, Option.getD_or]
    exact kept _
  have again := attempts_of_fallback chosen takes follows
    ((settles.failure formatter).trans fails)
  refine ⟨attempts_of_fallback chosen takes follows fails, fun succeeds => ?_,
    fun cause failed => ?_⟩
  · rw [settles.behind, settles.change formatter (.inl (isEncodable_of_takes follows succeeds)),
      succeeds] at again
    rw [left]
    exact again
  · have stays := (left (course.behind formatter)).trans (settles.behind formatter)
    rw [settles.behind] at again stays
    rw [failed] at again
    rw [left]
    exact again.failsAgain stays

/-- Attempts go again on the formatter that they leave behind, if the device gives the same answers
every time. -/
theorem exists_goesAgain (steady : IsSteady recording.session.device) (formatter : Formatter) :
    ∃ template before after failure,
      recording.GoesAgain formatter template before after failure := by
  obtain ⟨course, settles, takes⟩ := @exists_course_of_render (recording.context false) _ steady
    recording.zone rfl recording.choice.template.segments
  by_cases only : recording.choice = .standard ∨ course.failure formatter = none
  · exact ⟨_, _, _, _, goesAgain_of_chosen settles takes only⟩
  · obtain ⟨custom, chosen⟩ : ∃ custom, recording.choice = .custom custom := by
      cases chosen : recording.choice with
      | standard => exact absurd (.inl chosen) only
      | custom custom => exact ⟨custom, rfl⟩
    obtain ⟨cause, fails⟩ := Option.ne_none_iff_exists'.1 fun succeeds => only (.inr succeeds)
    obtain ⟨standard, _, follows⟩ := @exists_course_of_render (recording.context false) _ steady
      recording.zone rfl Template.standard.segments
    rw [chosen] at takes
    exact ⟨_, _, _, _, goesAgain_of_fallback chosen settles takes follows fails⟩

/-- A filename that is made by an attempt on a session, and the session behind it. -/
structure Made (recording : Recording) (template : Template) (before after : Change)
    (session : Session) (publication : Publication) (last : Session) : Prop where
  published : ({ recording with session } : Recording).publish false =
    (.ok publication, { recording with session := last })
  shape : ∃ start rendering behind log, before.Leads session start ∧
    runOn (renderSegments (resolve recording.zone (recording.context false)) template.segments)
      start = (.ok rendering, behind) ∧
    after.Leads start behind ∧ last = { behind with log } ∧
    publication = Publication.ofRendering template rendering last.redactor

/-- Attempts that do not fail have made a name. -/
theorem Attempts.exists_made (attempts : recording.Attempts formatter template before after none)
    (starts : recording.Starts formatter session) :
    ∃ publication last, recording.Made template before after session publication last := by
  obtain ⟨start, result, behind, attempt, prepares, ran, succeeded, leads⟩ :=
    attempts session starts
  cases result with
  | error cause => cases succeeded
  | ok rendering =>
      have rendered : ({ recording with session } : Recording).rendering false =
          (.ok rendering, behind) := by
        rw [Recording.rendering, attempt]
        exact ran
      obtain ⟨log, published⟩ := publish_of_rendered rendered
      rw [attempt] at published
      exact ⟨_, { behind with log }, published, start, rendering, behind, log, prepares, ran, leads,
        rfl, rfl⟩

/-- The changes of an attempt lead from one session to the other. -/
theorem Made.leads (made : recording.Made template before after session publication last) :
    (before.andThen after).Leads session last := by
  obtain ⟨start, rendering, behind, log, prepares, _, leads, rfl, _⟩ := made.shape
  exact prepares.trans (leads.reported log)

/-- Attempts on two sessions make the same filename if the formatters agree for the template that is
evaluated last and the same redactions are left behind. -/
theorem Made.publication_eq (made : recording.Made template before after session publication last)
    (also : recording.Made template before after other second rear)
    (device : other.device = session.device)
    (agree : ∀ start late, before.Leads session start → before.Leads other late →
      start.formatter = late.formatter ∨ PatternedFirst template.segments)
    (redactions : rear.redactor = last.redactor) : second = publication := by
  obtain ⟨start, rendering, behind, _, prepares, rendered, _, _, rfl⟩ := made.shape
  obtain ⟨late, again, rest, _, prepares_late, rendered_late, _, _, rfl⟩ := also.shape
  have devices : start.device = late.device := by
    rw [prepares.device, prepares_late.device, device]
  have same := @result_of_render_eq (recording.context false) template.segments start late
    recording.zone rfl ⟨devices, agree start late prepares prepares_late⟩
  rw [rendered, rendered_late] at same
  cases same
  rw [redactions]

/-- Behind an attempt the same attempt leaves the session where it is. -/
theorem Made.unmoved (made : recording.Made template before after session publication last)
    (again : recording.Made template before after last second rear) : Unmoved last rear :=
  made.leads.unmoved again.leads

/-- Behind an attempt that leaves the session where it is, the next one makes the same filename. -/
theorem Made.publication_eq_of_unmoved (unmoved : Unmoved session last)
    (made : recording.Made template before after session publication last)
    (again : recording.Made template before after last second rear) : second = publication := by
  refine made.publication_eq again made.leads.device
    (fun start late prepares prepares_late => .inl ?_)
    (made.unmoved again).redactor
  rw [prepares.formatter, prepares_late.formatter, unmoved.formatter]

/-- The template that is evaluated last is the chosen one or the standard one. -/
theorem Attempts.template_eq
    (attempts : recording.Attempts formatter template before after failure) :
    template = recording.choice.template ∨ template = Template.standard := by
  obtain ⟨start, _, _, attempt, _⟩ := attempts { recording.session with formatter } ⟨rfl, rfl⟩
  have shape := lastAttempt_template false
    { recording with session := { recording.session with formatter } }
  rw [attempt] at shape
  exact shape

/-- A template without patterns leaves the formatter that it starts with. -/
theorem Made.formatter_of_unpatterned (unpatterned : Unpatterned template.segments)
    (made : recording.Made template before after session publication last) :
    last.formatter = before.formatter.getD session.formatter := by
  obtain ⟨start, rendering, behind, log, prepares, rendered, _, rfl, _⟩ := made.shape
  have kept := Keeps.render SameFormatter.drift template.segments
    (fun _ member => Naming.sameFormatter_of_unpatterned recording.zone (recording.context false)
      unpatterned member) start
  rw [rendered] at kept
  exact kept.trans prepares.formatter

/-- The same filename is made on a session and behind it if no date of the template that is
evaluated last has a pattern, or the first one has. -/
theorem Made.publication_eq_of_steady
    (made : recording.Made template before after session publication last)
    (again : recording.Made template before after last second rear)
    (steady : Unpatterned template.segments ∨ PatternedFirst template.segments) :
    second = publication := by
  refine made.publication_eq again made.leads.device (fun start late prepares prepares_late => ?_)
    (made.unmoved again).redactor
  refine steady.imp (fun unpatterned => ?_) id
  rw [prepares_late.formatter, made.formatter_of_unpatterned unpatterned, prepares.formatter]
  cases before.formatter with
  | none => rfl
  | some formatter => rfl

end Recording

namespace Generator

/-- A generator behind some updates that do not wait. -/
def afterUpdates (count : Nat) (generator : Generator) : Generator :=
  (fun current => (update false current).2)^[count] generator

variable {generator : Generator} {recording : Recording} {template : Template}
  {before after : Change} {session last : Session} {publication : Publication} {fault : Fault}
  {formatter : Formatter}

theorem afterUpdates_succ (count : Nat) (generator : Generator) :
    generator.afterUpdates (count + 1) = ((generator.afterUpdates count).update false).2 :=
  Function.iterate_succ_apply' _ _ _

/-- Updates behind the first one are updates behind all. -/
theorem afterUpdates_of_first (count : Nat) (generator : Generator) :
    (generator.afterUpdates 1).afterUpdates count = generator.afterUpdates (count + 1) :=
  (Function.iterate_succ_apply _ _ _).symm

/-- Where attempts fail again, updates lead from one of their sessions to another. -/
theorem starts_afterUpdates (again : recording.FailsAgain fault formatter)
    (known : generator.recording = { recording with session })
    (starts : recording.Starts formatter session) (count : Nat) :
    ∃ current, (generator.afterUpdates count).recording = { recording with session := current } ∧
      recording.Starts formatter current := by
  induction count with
  | zero => exact ⟨session, known, starts⟩
  | succ count ih =>
      obtain ⟨current, recorded, still⟩ := ih
      rw [afterUpdates_succ, update_recording, recorded]
      exact ⟨_, rfl, (again current still).2⟩

/-- Where attempts fail again, all updates fail. -/
theorem updates_fail (again : recording.FailsAgain fault formatter)
    (known : generator.recording = { recording with session })
    (starts : recording.Starts formatter session) (count : Nat) :
    ((generator.afterUpdates count).update false).1 = .error fault := by
  obtain ⟨current, recorded, still⟩ := starts_afterUpdates again known starts count
  rw [update_result, recorded]
  exact (again current still).1

/-- An update shows the filename that is made. -/
theorem update_of_made (known : generator.recording = { recording with session })
    (made : recording.Made template before after session publication last) :
    generator.update false =
      (.ok publication, .publishing { recording with session := last } publication) := by
  apply update_of_published
  rw [known]
  exact made.published

/-- Behind an update, all later updates make the same filename as the next one and leave the session
where it is. -/
theorem settled_of_made {first : Session} {early : Publication}
    (attempts : recording.Attempts formatter template before after none)
    (starts : recording.Starts formatter session)
    (began : recording.Made template before after first early session)
    (made : recording.Made template before after session publication last)
    (known : generator.recording = { recording with session }) (count : Nat) :
    ∃ current next, (generator.afterUpdates count).recording = { recording with session := current } ∧
      recording.Starts formatter current ∧
      recording.Made template before after current publication next ∧ Unmoved current next := by
  induction count with
  | zero => exact ⟨session, last, known, starts, made, began.unmoved made⟩
  | succ count ih =>
      obtain ⟨current, next, recorded, still, shown, unmoved⟩ := ih
      have stays : recording.Starts formatter next :=
        ⟨unmoved.formatter.trans still.formatter, shown.leads.device.trans still.device⟩
      obtain ⟨later, rear, again⟩ := attempts.exists_made stays
      obtain rfl := Recording.Made.publication_eq_of_unmoved unmoved shown again
      refine ⟨next, rear, ?_, stays, again, shown.unmoved again⟩
      rw [afterUpdates_succ, update_of_made recorded shown, publishing_recording]

end Generator

open Generator

/-- Three updates or more, while the device gives the same answers every time: unless they all fail,
those behind the first give one filename and leave the formatter, the timestamp and the redactions
as they are. The first gives the same filename as the others if no date of the template has a valid
pattern, or the first one has. -/
theorem updates_settle (generator : Generator)
    (steady : IsSteady generator.recording.session.device) :
    (∃ fault, ∀ count, ((generator.afterUpdates count).update false).1 = .error fault) ∨
    ∃ first settled, (generator.update false).1 = .ok first ∧
      (∀ count, ((generator.afterUpdates (count + 1)).update false).1 = .ok settled ∧
        Unmoved (generator.afterUpdates (count + 1)).recording.session
          (generator.afterUpdates (count + 2)).recording.session) ∧
      (Unpatterned generator.recording.choice.template.segments ∨
        PatternedFirst generator.recording.choice.template.segments → first = settled) := by
  obtain ⟨template, before, after, failure, attempts, repeated, failing⟩ :=
    Recording.exists_goesAgain steady generator.recording.session.formatter
  have starts : generator.recording.Starts generator.recording.session.formatter
      generator.recording.session := ⟨rfl, rfl⟩
  cases failure with
  | some fault =>
      obtain ⟨failed, left⟩ := attempts.publish_of_failure starts
      refine .inl ⟨fault, fun count => ?_⟩
      cases count with
      | zero => exact (update_result false generator).trans failed
      | succ count =>
          rw [← afterUpdates_of_first]
          exact updates_fail (failing fault rfl) (update_recording false generator) left count
  | none =>
      obtain ⟨first, session, made⟩ := attempts.exists_made starts
      have onwards : generator.recording.Starts
          ((before.andThen after).formatter.getD generator.recording.session.formatter) session :=
        ⟨made.leads.formatter, made.leads.device⟩
      obtain ⟨settled, last, again⟩ := (repeated rfl).exists_made onwards
      have updated : generator.update false =
          (.ok first, .publishing { generator.recording with session } first) :=
        update_of_made rfl made
      have known : (generator.afterUpdates 1).recording = { generator.recording with session } :=
        congrArg (·.2.recording) updated
      refine .inr ⟨first, settled, congrArg Prod.fst updated, fun count => ?_, fun steady => ?_⟩
      · obtain ⟨current, next, recorded, _, shown, unmoved⟩ :=
          settled_of_made (repeated rfl) onwards made again known count
        rw [afterUpdates_of_first] at recorded
        rw [afterUpdates_succ (count + 1), update_of_made recorded shown, recorded]
        exact ⟨rfl, unmoved⟩
      · refine (made.publication_eq_of_steady again ?_).symm
        rcases attempts.template_eq with chosen | standard
        · rw [chosen]
          exact steady
        · rw [standard]
          exact .inl unpatterned_standard

/-- The segments of a template with the year and the date behind it. -/
def yearAgain : List Segment :=
  [.reference ⟨Variable.date.name, some yearPattern.print⟩, .literal ['_'],
    .reference ⟨Variable.date.name, none⟩]

theorem isNormal_yearAgain : IsNormal yearAgain := by
  have date : IsNormal [.reference ⟨Variable.date.name, none⟩] :=
    IsNormal.nil.reference_of_stripped (by decide) (by decide)
  have behind_year := date.joinLiteral ['_']
  exact behind_year.reference_of_stripped (by decide) (by decide)

theorem writable_yearAgain : Writable yearAgain := by
  intro target member pattern patterned
  have only : dates yearAgain =
      [⟨Variable.date.name, some yearPattern.print⟩, ⟨Variable.date.name, none⟩] := by decide
  rw [only, List.mem_cons, List.mem_singleton] at member
  rcases member with rfl | rfl
  · rw [Reference.pattern?, Option.bind_some,
      @Pattern.parse_print yearPattern (List.cons_ne_nil _ _)] at patterned
    cases patterned
    rfl
  · cases patterned

/-- A call on a device that never has subscriptions, which is named by the year and the date. -/
def Origin.yearAgain : Origin :=
  { Origin.named RecordingName.yearAgain with device := some (.steady .none) }

/-- A template that starts with a pattern gives the same filename from the first update on. -/
theorem updates_settle_year_again : ∃ generator publication,
    Origin.yearAgain.start = .ok generator ∧ IsSteady generator.recording.session.device ∧
    PatternedFirst generator.recording.choice.template.segments ∧
    ∀ count, ((generator.afterUpdates count).update false).1 = .ok publication := by
  obtain ⟨generator, started, _, _, _, formatter⟩ :=
    @Origin.start_of_dated Origin.yearAgain _
      [.reference ⟨Variable.date.name, some yearPattern.print⟩, .literal ['_']] _ _ none
      ofMillis_zero (runOn_render_reference.2 ⟨_, _, _, rfl, rfl, rfl⟩)
      (Origin.choice_named isNormal_yearAgain) rfl
  have encodable : generator.recording.session.formatter.IsEncodable := by
    rw [formatter]
    rfl
  obtain ⟨session, recorded⟩ := Origin.recording_of_start started
  have chosen : generator.recording.choice = .custom ⟨yearAgain⟩ :=
    (Reaches.start started).choice.trans (Origin.choice_named isNormal_yearAgain)
  have patterned : PatternedFirst generator.recording.choice.template.segments := by
    rw [chosen]
    exact ⟨_, yearPattern, rfl, rfl⟩
  have steady : IsSteady generator.recording.session.device := by
    obtain ⟨count, device⟩ := Origin.device_of_start started
    rw [device]
    rintro present ⟨⟩
    exact ⟨.none, rfl⟩
  rcases updates_settle generator steady with ⟨fault, failed⟩ | ⟨first, settled, made, later, same⟩
  · have made : ZonedTimestamp.ofMillis generator.recording.zone
        generator.recording.parent.creationMillis = .ok epochStart := by
      rw [recorded]
      exact ofMillis_zero
    obtain ⟨publication, after, published⟩ := Recording.exists_publication made
      (chosen ▸ writable_yearAgain) encodable false
    have unpublished := (update_result false generator).symm.trans (failed 0)
    rw [published] at unpublished
    cases unpublished
  · refine ⟨generator, settled, started, steady, patterned, fun count => ?_⟩
    cases count with
    | zero =>
        rw [← same (.inr patterned)]
        exact made
    | succ count => exact (later count).1

end RecordingName
