import RecordingName.Proofs.Call.Subscriptions
import RecordingName.Proofs.Naming.Dating
import RecordingName.Proofs.Redaction.Repetition

/-!
# What evaluations change

An evaluation that does not wait for a look-up may set the timestamp, put another formatter in
force, and offer sources for redaction. If the device gives the same answers every time, what it
changes and whether it fails depends on no more of the session than the formatter in force, and on
that only because it may be one that cannot write: the evaluation takes a `Course`, which settles,
by `exists_course_of_render`. A change that is made twice in a row is made once, by
`Change.Leads.unmoved`.
-/

namespace RecordingName.Naming

open DateFormat Template

variable {α β : Type} {zone : Zone} {context : Context} {target : Reference}
  {segments : List Segment} {first second third : Session} {failure : Option Fault}

/-- Two sessions with the same formatter, timestamp and redactions. -/
structure Unmoved (before behind : Session) : Prop where
  formatter : behind.formatter = before.formatter
  timestamp : behind.timestamp = before.timestamp
  redactor : behind.redactor = before.redactor

/-- What an evaluation can do to a session, apart from look-ups and reports: the formatter that it
puts in force, the timestamp that it sets, and the sources that it offers for redaction, with their
placeholders. -/
structure Change where
  formatter : Option Formatter
  timestamp : Option ZonedTimestamp
  offered : List (Text × Text)

namespace Change

variable {change other : Change}

/-- The change that leaves everything as it is. -/
def idle : Change := ⟨none, none, []⟩

/-- A change and another one behind it. -/
def andThen (change other : Change) : Change where
  formatter := other.formatter.or change.formatter
  timestamp := other.timestamp.or change.timestamp
  offered := change.offered ++ other.offered

/-- A change leads from one session to another. -/
structure Leads (change : Change) (before behind : Session) : Prop where
  formatter : behind.formatter = change.formatter.getD before.formatter
  timestamp : behind.timestamp = change.timestamp.or before.timestamp
  redactor : behind.redactor = before.redactor.offeredAll change.offered
  device : behind.device = before.device

theorem idle_leads (session : Session) : idle.Leads session session :=
  ⟨rfl, rfl, rfl, rfl⟩

/-- A change behind another leads where the two lead one after the other. -/
theorem Leads.trans (leads : change.Leads first second) (onwards : other.Leads second third) :
    (change.andThen other).Leads first third where
  formatter := by
    rw [onwards.formatter, leads.formatter, andThen, Option.getD_or]
  timestamp := by
    rw [onwards.timestamp, leads.timestamp, andThen, Option.or_assoc]
  redactor := by
    rw [onwards.redactor, leads.redactor, andThen, Redactor.offeredAll_append]
  device := onwards.device.trans leads.device

/-- What is only reported makes no difference. -/
theorem Leads.reported (leads : change.Leads first second) (log : List LogEntry) :
    change.Leads first { second with log } :=
  ⟨leads.formatter, leads.timestamp, leads.redactor, leads.device⟩

/-- A change that is made again changes nothing. -/
theorem Leads.unmoved (leads : change.Leads first second) (again : change.Leads second third) :
    Unmoved second third where
  formatter := by
    rw [again.formatter, leads.formatter]
    cases change.formatter with
    | none => rfl
    | some formatter => rfl
  timestamp := by
    rw [again.timestamp, leads.timestamp, ← Option.or_assoc, Option.or_self]
  redactor := by
    rw [again.redactor, leads.redactor, Redactor.offeredAll_offeredAll]

end Change

/-- Without waiting, nothing is looked up. -/
theorem Composable.lookUpContact_of_immediate {holds : ∀ α : Type, Evaluation α → Prop}
    (composable : Composable holds) (immediate : context.mayBlock = false) (party : Details) :
    holds (Option Text) (lookUpContact context party) := by
  unfold lookUpContact
  rw [immediate]
  exact composable.pure_of_report _ _ _ _

/-- The change that only offers sources for redaction. -/
def Change.offering (offered : List (Text × Text)) : Change := ⟨none, none, offered⟩

/-- What tells about the subscriptions of a device gives the same answers every time, if it is
there. -/
def IsSteady (device : Option Device) : Prop :=
  ∀ present, device = some present → ∃ subscriptions, present = .steady subscriptions

/-- A steady device is the same behind a question. -/
theorem IsSteady.map_behind {device : Option Device} (steady : IsSteady device) :
    device.map Device.behind = device := by
  cases device with
  | none => rfl
  | some present => exact congrArg some (Device.behind_eq_self_iff.2 (steady present rfl))

/-- An evaluation that gives the same result on every session with a device, and makes no other
change than to offer the same sources for redaction. -/
def Determined (device : Option Device) (work : Evaluation α) : Prop :=
  ∃ result offered, ∀ session, session.device = device → ∃ behind,
    runOn work session = (result, behind) ∧ (Change.offering offered).Leads session behind

/-- Programs whose changes are determined are so together. -/
theorem Determined.composable (device : Option Device) :
    Composable fun _ work => Determined device work where
  pure value := ⟨.ok value, [], fun session _ => ⟨session, rfl, Change.idle_leads session⟩⟩
  bind {_ _ work next} first second := by
    obtain ⟨result, offered, worked⟩ := first
    cases result with
    | ok value =>
        obtain ⟨last, more, followed⟩ := second value
        refine ⟨last, offered ++ more, fun session present => ?_⟩
        obtain ⟨middle, ran, leads⟩ := worked session present
        obtain ⟨behind, ran_on, onwards⟩ := followed middle (leads.device.trans present)
        refine ⟨behind, ?_, leads.trans onwards⟩
        rw [runOn_bind, ran]
        exact ran_on
    | error fault =>
        refine ⟨.error fault, offered, fun session present => ?_⟩
        obtain ⟨middle, ran, leads⟩ := worked session present
        refine ⟨middle, ?_, leads⟩
        rw [runOn_bind, ran]
  report _ _ _ := ⟨.ok (), [], fun session _ => ⟨_, rfl, (Change.idle_leads session).reported _⟩⟩
  hide source placeholder :=
    ⟨.ok (), [(source, placeholder)], fun _ _ => ⟨_, rfl, rfl, rfl, rfl, rfl⟩⟩

/-- A device that gives the same answers every time determines them. -/
theorem determined_ask {device : Option Device} (steady : IsSteady device)
    (question : Subscriptions → Except Text α) : Determined device (ask question) := by
  refine ⟨(question (device.elim .none Device.subscriptions)).mapError .subscriptions, [], ?_⟩
  rintro session rfl
  refine ⟨session, ?_, Change.idle_leads session⟩
  rw [runOn_ask, steady.map_behind]
  rfl

/-- An answer that is no date and does not wait is determined by a device that gives the same answers
every time. -/
theorem determined_of_ne_date {device : Option Device} (steady : IsSteady device) (zone : Zone)
    (immediate : context.mayBlock = false) (other : target.name ≠ Variable.date.name) :
    Determined device (resolve zone context target) :=
  have composable := Determined.composable device
  composable.resolve_of_ne_date
    (composable.simSlot (determined_ask steady _) (determined_ask steady _)
      (determined_ask steady _) (determined_ask steady _))
    (composable.lookUpContact_of_immediate immediate)
    fun found => other (Variable.ofName?_eq_some_iff.1 found)

/-- Why an evaluation has failed, if it has. -/
def failureOf : Except Fault α → Option Fault
  | .ok _ => none
  | .error fault => some fault

/-- How evaluations go that depend on the formatter in force: what they change, and why they fail,
if they do. -/
structure Course where
  change : Formatter → Change
  failure : Formatter → Option Fault

namespace Course

variable {course later : Course} {formatter : Formatter} {fault : Fault} {stamp : ZonedTimestamp}

/-- The formatter that is left behind. -/
def behind (course : Course) (formatter : Formatter) : Formatter :=
  (course.change formatter).formatter.getD formatter

/-- The course on which the formatter in force makes no difference. -/
def fixed (change : Change) (failure : Option Fault) : Course where
  change _ := change
  failure _ := failure

/-- Offer sources for redaction, and go on. -/
def offering (offered : List (Text × Text)) (later : Course) : Course where
  change formatter := (Change.offering offered).andThen (later.change formatter)
  failure := later.failure

/-- Write a date by the formatter in force, and go on unless that fails. -/
def writing (stamp : ZonedTimestamp) (later : Course) : Course where
  change formatter :=
    if formatter.IsEncodable then (⟨none, some stamp, []⟩ : Change).andThen (later.change formatter)
    else ⟨none, some stamp, []⟩
  failure formatter :=
    match formatter.encodingError? with
    | some error => some (.format (.encoding error))
    | none => later.failure formatter

/-- Put a formatter in force, write a date by it, and go on unless that fails. -/
def choosing (chosen : Formatter) (stamp : ZonedTimestamp) (later : Course) : Course :=
  .fixed ((⟨some chosen, none, []⟩ : Change).andThen ((writing stamp later).change chosen))
    ((writing stamp later).failure chosen)

/-- A course that goes the same way again, on the formatter that it has left behind, or fails again
for the same reason; and it can leave a formatter behind that does not write only by failing
there. -/
structure Settles (course : Course) : Prop where
  failure : ∀ formatter, course.failure (course.behind formatter) = course.failure formatter
  behind : ∀ formatter, course.behind (course.behind formatter) = course.behind formatter
  change : ∀ formatter,
    (course.behind formatter).IsEncodable ∨ course.failure formatter = none →
      course.change (course.behind formatter) = course.change formatter
  stuck : ∀ formatter, formatter.IsEncodable → ∀ error,
    (course.behind formatter).encodingError? = some error →
      course.failure formatter = some (.format (.encoding error))

/-- A course that is the same from every formatter settles, if it fails wherever the formatter that
it chooses cannot write. -/
theorem settles_fixed {change : Change} {failure : Option Fault}
    (stuck : ∀ chosen error, change.formatter = some chosen →
      chosen.encodingError? = some error → failure = some (.format (.encoding error))) :
    (fixed change failure).Settles where
  failure _ := rfl
  behind formatter := by
    unfold behind fixed
    cases change.formatter <;> rfl
  change _ _ := rfl
  stuck formatter encodable error left := by
    cases chosen : change.formatter with
    | none =>
        rw [behind, fixed, chosen, Option.getD_none, encodable] at left
        cases left
    | some other =>
        rw [behind, fixed, chosen, Option.getD_some] at left
        exact stuck other error chosen left

/-- What only fails settles. -/
theorem settles_failing (offered : List (Text × Text)) (fault : Fault) :
    (fixed (.offering offered) (some fault)).Settles :=
  settles_fixed fun _ _ unset => by cases unset

/-- Offering texts to the redactor first does not unsettle a course. -/
theorem Settles.offering (settles : later.Settles) (offered : List (Text × Text)) :
    (offering offered later).Settles := by
  have same (formatter : Formatter) :
      (Course.offering offered later).behind formatter = later.behind formatter := by
    simp [Course.behind, Course.offering, Change.andThen, Change.offering]
  refine ⟨fun formatter => ?_, fun formatter => ?_, fun formatter fine => ?_,
    fun formatter encodable error left => ?_⟩
  · rw [same]
    exact settles.failure formatter
  · rw [same, same]
    exact settles.behind formatter
  · rw [same] at fine ⊢
    exact congrArg (Change.andThen _) (settles.change formatter fine)
  · rw [same] at left
    exact settles.stuck formatter encodable error left

theorem behind_writing (later : Course) (stamp : ZonedTimestamp) (formatter : Formatter) :
    (writing stamp later).behind formatter =
      if formatter.IsEncodable then later.behind formatter else formatter := by
  by_cases encodable : formatter.IsEncodable <;>
    simp [behind, writing, encodable, Change.andThen]

/-- A formatter that can write lets the later course decide about failure. -/
theorem failure_writing_of_isEncodable (encodable : formatter.IsEncodable) :
    (writing stamp later).failure formatter = later.failure formatter := by
  simp only [writing, show formatter.encodingError? = none from encodable]

/-- A formatter that can write notes the time and lets the later course go on. -/
theorem change_writing_of_isEncodable (encodable : formatter.IsEncodable) :
    (writing stamp later).change formatter =
      (⟨none, some stamp, []⟩ : Change).andThen (later.change formatter) :=
  if_pos encodable

/-- A formatter that cannot write notes the time and ends the course. -/
theorem change_writing_of_not (unencodable : ¬ formatter.IsEncodable) :
    (writing stamp later).change formatter = ⟨none, some stamp, []⟩ :=
  if_neg unencodable

/-- It ends it with the error of its own text. -/
theorem failure_writing_of_error {error : Text.EncodingError}
    (found : formatter.encodingError? = some error) :
    (writing stamp later).failure formatter = some (.format (.encoding error)) := by
  simp only [writing, found]

/-- Where a formatter is left that does not write, it has failed to write the date or one behind
it. -/
theorem Settles.failure_writing (settles : later.Settles) {error : Text.EncodingError}
    (left : ((Course.writing stamp later).behind formatter).encodingError? = some error) :
    (Course.writing stamp later).failure formatter = some (.format (.encoding error)) := by
  rw [behind_writing] at left
  split at left
  next encodable =>
    rw [failure_writing_of_isEncodable encodable]
    exact settles.stuck formatter encodable error left
  next => exact failure_writing_of_error left

/-- A date that is written by the formatter in force settles if what is behind it does: the formatter
that is left writes the date again, or it fails there for the reason for which it has been left. -/
theorem Settles.writing (settles : later.Settles) (stamp : ZonedTimestamp) :
    (writing stamp later).Settles := by
  refine ⟨fun formatter => ?_, fun formatter => ?_, fun formatter fine => ?_,
    fun formatter _ error => settles.failure_writing⟩
  · cases left : ((Course.writing stamp later).behind formatter).encodingError? with
    | some error => rw [settles.failure_writing left, failure_writing_of_error left]
    | none =>
        rw [failure_writing_of_isEncodable left]
        rw [behind_writing] at left ⊢
        split
        next encodable =>
          rw [failure_writing_of_isEncodable encodable]
          exact settles.failure formatter
        next unencodable =>
          rw [if_neg unencodable] at left
          exact absurd left unencodable
  · rw [behind_writing, behind_writing]
    by_cases encodable : formatter.IsEncodable
    · rw [if_pos encodable, settles.behind, ite_self]
    · rw [if_neg encodable, if_neg encodable]
  · have left : ((Course.writing stamp later).behind formatter).IsEncodable := by
      refine fine.elim id fun succeeded => ?_
      cases left : ((Course.writing stamp later).behind formatter).encodingError? with
      | none => exact left
      | some error =>
          rw [settles.failure_writing left] at succeeded
          cases succeeded
    rw [behind_writing] at left ⊢
    split at left
    next encodable =>
      rw [if_pos encodable, change_writing_of_isEncodable left,
        change_writing_of_isEncodable encodable, settles.change formatter (.inl left)]
    next unencodable => rw [if_neg unencodable]

theorem behind_choosing (later : Course) (stamp : ZonedTimestamp) (chosen formatter : Formatter) :
    (choosing chosen stamp later).behind formatter = (writing stamp later).behind chosen := by
  simp only [behind, choosing, fixed, Change.andThen]
  cases ((writing stamp later).change chosen).formatter <;> rfl

/-- A date that is written by a formatter of its own settles if what is behind it does. -/
theorem Settles.choosing (settles : later.Settles) (chosen : Formatter) (stamp : ZonedTimestamp) :
    (choosing chosen stamp later).Settles := by
  refine settles_fixed fun other error put found => ?_
  have left : (Course.writing stamp later).behind chosen = other := by
    rw [← behind_choosing later stamp chosen chosen]
    exact congrArg (Option.getD · chosen) put
  rw [← left] at found
  exact settles.failure_writing found

end Course

/-- An evaluation takes a course on every session with a device. -/
def Takes (device : Option Device) (course : Course) (work : Evaluation α) : Prop :=
  ∀ session, session.device = device → ∃ result behind, runOn work session = (result, behind) ∧
    failureOf result = course.failure session.formatter ∧
    (course.change session.formatter).Leads session behind

section Takes

variable {device : Option Device} {course later : Course} {work : Evaluation α}
  {next : α → Evaluation β}

/-- The formatter that a course leaves is that of the session behind it. -/
theorem Change.Leads.formatter_eq (leads : (course.change first.formatter).Leads first second) :
    second.formatter = course.behind first.formatter :=
  leads.formatter

/-- A course that keeps the formatter of every session leaves every formatter as it is. -/
theorem Takes.behind_eq (takes : Takes device course work) (kept : Keeps SameFormatter work)
    (session : Session) (present : session.device = device) :
    course.behind session.formatter = session.formatter := by
  obtain ⟨result, behind, ran, _, leads⟩ := takes session present
  have same := kept session
  rw [ran] at same
  exact leads.formatter_eq.symm.trans same

/-- Nothing but the result changes if it is passed on. -/
theorem Takes.bind_pure (takes : Takes device course work) (pass : α → β) :
    Takes device course (work >>= fun value => pure (pass value)) := by
  intro session present
  obtain ⟨result, behind, ran, same, leads⟩ := takes session present
  cases result with
  | ok value =>
      refine ⟨.ok (pass value), behind, ?_, same, leads⟩
      rw [runOn_bind, ran]
      rfl
  | error fault =>
      refine ⟨.error fault, behind, ?_, same, leads⟩
      rw [runOn_bind, ran]

/-- What is determined and fails ends the course. -/
theorem takes_of_failing {offered : List (Text × Text)} {fault : Fault}
    (failing : ∀ session, session.device = device → ∃ behind,
      runOn work session = (.error fault, behind) ∧ (Change.offering offered).Leads session behind)
    (next : α → Evaluation β) :
    Takes device (.fixed (.offering offered) (some fault)) (work >>= next) := by
  intro session present
  obtain ⟨behind, ran, leads⟩ := failing session present
  refine ⟨.error fault, behind, ?_, rfl, leads⟩
  rw [runOn_bind, ran]

/-- What is determined and succeeds comes first on the course. -/
theorem takes_of_determined {offered : List (Text × Text)} {value : α}
    (determined : ∀ session, session.device = device → ∃ behind,
      runOn work session = (.ok value, behind) ∧ (Change.offering offered).Leads session behind)
    (takes : Takes device later (next value)) :
    Takes device (.offering offered later) (work >>= next) := by
  intro session present
  obtain ⟨middle, ran, leads⟩ := determined session present
  obtain ⟨result, behind, ran_on, same, leads_on⟩ := takes middle (leads.device.trans present)
  have kept : middle.formatter = session.formatter := leads.formatter
  rw [kept] at same leads_on
  refine ⟨result, behind, ?_, same, leads.trans leads_on⟩
  rw [runOn_bind, ran]
  exact ran_on

end Takes

/-- A date comes first on the course: without a pattern it is written by the formatter in force, and
otherwise by that of the pattern. -/
def Course.dated (target : Reference) (stamp : ZonedTimestamp) (later : Course) : Course :=
  match target.pattern? with
  | none => .writing stamp later
  | some pattern => .choosing (.custom pattern) stamp later

/-- A date does not unsettle a course. -/
theorem Course.Settles.dated {later : Course} (settles : later.Settles) (target : Reference)
    (stamp : ZonedTimestamp) : (Course.dated target stamp later).Settles := by
  unfold Course.dated
  cases target.pattern? with
  | none => exact settles.writing stamp
  | some pattern => exact settles.choosing _ stamp

/-- Writing a date by the formatter in force, and what is behind it. -/
theorem Course.exists_writing {device : Option Device} {later : Course}
    {next : Option Text → Evaluation β} (takes : ∀ value, Takes device later (next value))
    (stamp : ZonedTimestamp) (session : Session) (present : session.device = device)
    (log : List LogEntry) :
    ∃ result behind,
      (match dateAnswer session.formatter stamp with
        | .ok value => runOn (next value) { session with timestamp := some stamp, log }
        | .error fault => (.error fault, { session with timestamp := some stamp, log })) =
          (result, behind) ∧
      failureOf result = (Course.writing stamp later).failure session.formatter ∧
      ((Course.writing stamp later).change session.formatter).Leads session behind := by
  have dates : (⟨none, some stamp, []⟩ : Change).Leads session
      { session with timestamp := some stamp, log } := ⟨rfl, rfl, rfl, rfl⟩
  cases found : session.formatter.encodingError? with
  | some error =>
      have unencodable : ¬ session.formatter.IsEncodable := by
        rw [Formatter.IsEncodable, found]
        exact Option.some_ne_none error
      refine ⟨.error (.format (.encoding error)), _, by rw [dateAnswer, found],
        (failure_writing_of_error found).symm, ?_⟩
      rw [change_writing_of_not unencodable]
      exact dates
  | none =>
      obtain ⟨result, behind, ran, same, leads⟩ := takes (some (session.formatter.write stamp))
        { session with timestamp := some stamp, log } present
      refine ⟨result, behind, ?_, ?_, ?_⟩
      · rw [dateAnswer_of_isEncodable found]
        exact ran
      · rw [failure_writing_of_isEncodable found]
        exact same
      · rw [change_writing_of_isEncodable found]
        exact dates.trans leads

/-- A date and what is behind it take the course of the date. -/
theorem takes_of_date {device : Option Device} {later : Course} {stamp : ZonedTimestamp}
    {next : Option Text → Evaluation β} (dated : target.name = Variable.date.name)
    (made : ZonedTimestamp.ofMillis zone context.parent.creationMillis = .ok stamp)
    (takes : ∀ value, Takes device later (next value)) :
    Takes device (.dated target stamp later) (resolve zone context target >>= next) := by
  intro session present
  obtain ⟨log, answered⟩ := runOn_resolveDate_of_made made target.argument session
  rw [resolve_of_date dated, runOn_bind, answered]
  obtain ⟨result, behind, ran, same, leads⟩ := Course.exists_writing takes stamp
    { session with formatter := chosenFormatter session.formatter target.argument } present log
  refine ⟨result, behind, ?_, ?_⟩
  · rw [← ran]
    dsimp only
    cases dateAnswer (chosenFormatter session.formatter target.argument) stamp <;> rfl
  have chosen := chosenFormatter_eq session.formatter target
  unfold Course.dated
  cases shape : target.pattern? with
  | none =>
      rw [shape, Option.map_none, Option.getD_none] at chosen
      rw [chosen] at same leads
      exact ⟨same, leads⟩
  | some pattern =>
      rw [shape, Option.map_some, Option.getD_some] at chosen
      rw [chosen] at same leads
      have puts : (⟨some (.custom pattern), none, []⟩ : Change).Leads session
          { session with formatter := .custom pattern } := ⟨rfl, rfl, rfl, rfl⟩
      exact ⟨same, puts.trans leads⟩

/-- A rendering that does not wait takes a course that settles, if the device gives the same answers
every time. -/
theorem exists_course_of_render {device : Option Device} (steady : IsSteady device) (zone : Zone)
    (immediate : context.mayBlock = false) (segments : List Segment) :
    ∃ course : Course, course.Settles ∧
      Takes device course (renderSegments (resolve zone context) segments) := by
  induction segments with
  | nil =>
      refine ⟨.fixed .idle none, Course.settles_fixed ?_, ?_⟩
      · intro chosen error unset
        cases unset
      · exact fun session _ => ⟨_, _, rfl, rfl, Change.idle_leads session⟩
  | cons segment rest ih =>
      obtain ⟨later, settles, takes⟩ := ih
      cases segment with
      | literal text => exact ⟨later, settles, takes.bind_pure _⟩
      | reference target =>
          rw [renderSegments]
          by_cases dated : target.name = Variable.date.name
          · cases made : ZonedTimestamp.ofMillis zone context.parent.creationMillis with
            | ok stamp =>
                exact ⟨_, settles.dated target stamp,
                  takes_of_date dated made fun _ => takes.bind_pure _⟩
            | error error =>
                refine ⟨_, Course.settles_failing [] (.instant error), ?_⟩
                refine takes_of_failing (fun session _ => ⟨session, ?_, Change.idle_leads session⟩) _
                rw [resolve_of_date dated]
                exact runOn_resolveDate_of_error made target.argument session
          · obtain ⟨result, offered, determined⟩ := determined_of_ne_date steady zone immediate dated
            cases result with
            | ok value =>
                exact ⟨_, settles.offering offered,
                  takes_of_determined determined (takes.bind_pure _)⟩
            | error fault =>
                exact ⟨_, Course.settles_failing offered fault, takes_of_failing determined _⟩

end RecordingName.Naming
