import RecordingName.Proofs.Naming.Changes
import RecordingName.Proofs.Naming.Standard

/-!
# What answers depend on

An answer that is no date depends on nothing in the session but the device as long as it must not
wait for a look-up, by `byDevice_of_ne_date`, and a date depends on the formatter in force unless it
has a pattern of its own. So a whole rendering depends on the device and the formatter alone, and
not even on the formatter if its first date has a pattern: `result_of_render_eq`. If the device
answers, it fails only for what makes the standard template fail as well, by
`exists_dateFault_of_render_failed`. That a call is a conference counts in the recording and not in
the details of its calls, by `resolve_unflagged`.
-/

namespace RecordingName.Naming

open DateFormat Template

variable {α β : Type} {zone : Zone} {context : Context} {target : Reference}
  {segments : List Segment} {session first second : Session}

/-- A sequence gives the same result on two sessions if both of its parts do. -/
theorem result_of_bind_eq {work : Evaluation α} {next : α → Evaluation β}
    (same : (runOn work first).1 = (runOn work second).1)
    (follows : ∀ value early late, runOn work first = (.ok value, early) →
      runOn work second = (.ok value, late) →
      (runOn (next value) early).1 = (runOn (next value) late).1) :
    (runOn (work >>= next) first).1 = (runOn (work >>= next) second).1 := by
  rw [runOn_bind, runOn_bind]
  cases early : runOn work first with
  | mk result behind =>
      cases late : runOn work second with
      | mk other after =>
          rw [early, late] at same
          cases same
          cases result with
          | ok value => exact follows value behind after early late
          | error fault => rfl

/-- An evaluation whose result depends on nothing in the session but the device, as does the device
that it leaves behind. -/
def ByDevice (work : Evaluation α) : Prop :=
  ∀ first second, first.device = second.device →
    (runOn work first).1 = (runOn work second).1 ∧
      (runOn work first).2.device = (runOn work second).2.device

/-- Programs that depend on the device alone do so together. -/
theorem ByDevice.composable : Composable fun _ work => ByDevice work where
  pure _ _ _ same := ⟨rfl, same⟩
  bind {_ _ work next} head rest first second same := by
    obtain ⟨alike, behind⟩ := head first second same
    rw [runOn_bind, runOn_bind]
    rcases early : runOn work first with ⟨result, middle⟩
    rcases late : runOn work second with ⟨other, later⟩
    rw [early, late] at alike behind
    cases alike
    cases result with
    | ok value => exact rest value middle later behind
    | error fault => exact ⟨rfl, behind⟩
  report _ _ _ _ _ same := ⟨rfl, same⟩
  hide _ _ _ _ same := ⟨rfl, same⟩

/-- A question depends on the device alone. -/
theorem byDevice_ask (question : Subscriptions → Except Text α) : ByDevice (ask question) := by
  intro first second same
  rw [runOn_ask, runOn_ask, Session.subscriptions, Session.subscriptions, same]
  exact ⟨rfl, rfl⟩

/-- An answer that is no date and does not wait depends on the device alone. -/
theorem byDevice_of_ne_date (zone : Zone) (immediate : context.mayBlock = false)
    (other : target.name ≠ Variable.date.name) : ByDevice (resolve zone context target) :=
  ByDevice.composable.resolve_of_ne_date
    (ByDevice.composable.simSlot (byDevice_ask _) (byDevice_ask _) (byDevice_ask _) (byDevice_ask _))
    (ByDevice.composable.lookUpContact_of_immediate immediate)
    fun found => other (Variable.ofName?_eq_some_iff.1 found)

/-- What tells about the subscriptions of a device answers every question, if it is there. -/
def Session.Answers (session : Session) : Prop :=
  ∀ device, session.device = some device → device.Answers

/-- A session that answers has a provider whose next answers are given. -/
theorem Session.Answers.subscriptions (answers : session.Answers) :
    session.subscriptions.Answers := by
  rw [Session.subscriptions]
  cases present : session.device with
  | none => exact ⟨⟨_, rfl⟩, ⟨_, rfl⟩, ⟨_, rfl⟩, fun _ => ⟨_, rfl⟩⟩
  | some device => exact answers device present 0

/-- Where the device answers, questions leave one behind that does. -/
def StaysAnswering (before behind : Session) : Prop :=
  before.Answers → behind.Answers

/-- Reporting, hiding, asking and looking up leave a device that answers. -/
theorem StaysAnswering.drift : Drift StaysAnswering where
  refl _ := id
  trans first second := second ∘ first
  hide _ _ _ := id
  ask session answers device present := by
    obtain ⟨earlier, before, rfl⟩ := Option.map_eq_some_iff.1 present
    exact (answers earlier before).behind
  lookUp _ _ _ _ := id

/-- An evaluation that succeeds where the device answers. -/
def SucceedsAnswered (work : Evaluation α) : Prop :=
  ∀ session : Session, session.Answers → ∃ value behind,
    runOn work session = (.ok value, behind) ∧ behind.Answers

/-- Programs that succeed where questions are answered do so together. -/
theorem SucceedsAnswered.composable : Composable fun _ work => SucceedsAnswered work where
  pure value session answers := ⟨value, session, rfl, answers⟩
  bind {_ _ work next} first second session answers := by
    obtain ⟨value, middle, ran, still⟩ := first session answers
    obtain ⟨result, behind, ran_on, answering⟩ := second value middle still
    exact ⟨result, behind, runOn_bind_eq_ok.2 ⟨value, middle, ran, ran_on⟩, answering⟩
  report _ _ _ _ answers := ⟨(), _, rfl, answers⟩
  hide _ _ _ answers := ⟨(), _, rfl, answers⟩

/-- A question that every answering provider answers succeeds. -/
theorem succeedsAnswered_ask {question : Subscriptions → Except Text α}
    (answered : ∀ subscriptions : Subscriptions, subscriptions.Answers →
      ∃ value, question subscriptions = .ok value) : SucceedsAnswered (ask question) := by
  intro session answers
  obtain ⟨value, told⟩ := answered session.subscriptions answers.subscriptions
  refine ⟨value, _, ?_, StaysAnswering.drift.ask session answers⟩
  rw [runOn_ask, told]
  rfl

/-- If the device answers, there is an answer to everything but dates. -/
theorem succeeds_of_ne_date (zone : Zone) (immediate : context.mayBlock = false)
    (other : target.name ≠ Variable.date.name) : SucceedsAnswered (resolve zone context target) :=
  SucceedsAnswered.composable.resolve_of_ne_date
    (SucceedsAnswered.composable.simSlot
      (succeedsAnswered_ask fun _ answers => answers.telephony)
      (succeedsAnswered_ask fun _ answers => answers.permission)
      (succeedsAnswered_ask fun _ answers => answers.count)
      (succeedsAnswered_ask fun _ answers => answers.slot _))
    (SucceedsAnswered.composable.lookUpContact_of_immediate immediate)
    fun found => other (Variable.ofName?_eq_some_iff.1 found)

/-- If the device answers, a rendering fails only for what stands in the way of the date in the
standard template as well. -/
theorem exists_dateFault_of_render_failed {behind : Session} {fault : Fault}
    (answers : first.Answers) (immediate : context.mayBlock = false)
    (failed : runOn (renderSegments (resolve zone context) segments) first =
      (.error fault, behind)) :
    ∃ obstacle, dateFault? zone context behind.formatter = some obstacle := by
  cases made : ZonedTimestamp.ofMillis zone context.parent.creationMillis with
  | error error => exact ⟨_, dateFault?_of_error made _⟩
  | ok stamp =>
      obtain ⟨front, target, back, before, middle, _, rendered, unanswered⟩ :=
        runOn_render_eq_error.1 failed
      by_cases dated : target.name = Variable.date.name
      · obtain ⟨error, unencodable, _⟩ := unwritten_of_resolve dated made unanswered
        rw [dateFault?_of_made made, unencodable]
        exact ⟨_, rfl⟩
      · have still := Keeps.render StaysAnswering.drift front
          (fun other _ => Keeps.resolve StaysAnswering.drift (fun _ _ _ _ => id) zone context other)
          first
        rw [rendered] at still
        obtain ⟨value, after, answered, _⟩ :=
          succeeds_of_ne_date zone immediate dated middle (still answers)
        cases unanswered.symm.trans answered

/-- The first date has a valid pattern. -/
def PatternedFirst (segments : List Segment) : Prop :=
  ∃ target pattern, (dates segments).head? = some target ∧ target.pattern? = some pattern

/-- Two sessions have the same device, and the same formatter, or will have it when the next date is
written. -/
structure Agree (first second : Session) (segments : List Segment) : Prop where
  device : first.device = second.device
  formatter : first.formatter = second.formatter ∨ PatternedFirst segments

/-- An answer is the same on two sessions, which agree for the segments behind it. -/
def AnswersAlike (answer : Evaluation (Option Text)) (first second : Session)
    (segments : List Segment) : Prop :=
  (runOn answer first).1 = (runOn answer second).1 ∧
    ∀ value early late, runOn answer first = (.ok value, early) →
      runOn answer second = (.ok value, late) → Agree early late segments

/-- A date is the same on two sessions that agree on its formatter, and leaves that behind. -/
theorem alike_of_date (dated : target.name = Variable.date.name)
    (agree : Agree first second (.reference target :: segments)) :
    AnswersAlike (resolve zone context target) first second segments := by
  rw [AnswersAlike, resolve_of_date dated]
  cases made : ZonedTimestamp.ofMillis zone context.parent.creationMillis with
  | error error =>
      rw [runOn_resolveDate_of_error made, runOn_resolveDate_of_error made]
      refine ⟨rfl, fun value early late answered => ?_⟩
      cases answered
  | ok stamp =>
      have chosen : chosenFormatter first.formatter target.argument =
          chosenFormatter second.formatter target.argument := by
        rcases agree.formatter with same | ⟨head, pattern, shape, patterned⟩
        · rw [same]
        · rw [dates_cons_date dated, List.head?_cons, Option.some.injEq] at shape
          rw [chosenFormatter_eq, chosenFormatter_eq, shape, patterned]
          rfl
      obtain ⟨early, first_answer⟩ := runOn_resolveDate_of_made made target.argument first
      obtain ⟨late, second_answer⟩ := runOn_resolveDate_of_made made target.argument second
      rw [first_answer, second_answer, chosen]
      refine ⟨rfl, fun value before behind first_run second_run => ?_⟩
      rw [← (Prod.mk.inj first_run).2, ← (Prod.mk.inj second_run).2]
      exact ⟨agree.device, .inl rfl⟩

/-- What is no date is the same on any two sessions, and leaves their formatters alone. -/
theorem alike_of_ne_date (immediate : context.mayBlock = false)
    (other : target.name ≠ Variable.date.name)
    (agree : Agree first second (.reference target :: segments)) :
    AnswersAlike (resolve zone context target) first second segments := by
  obtain ⟨same, device⟩ := byDevice_of_ne_date zone immediate other first second agree.device
  refine ⟨same, ?_⟩
  intro value early late first_run second_run
  have first_kept := (sameDate_of_ne_date zone context other first).2
  have second_kept := (sameDate_of_ne_date zone context other second).2
  rw [first_run] at first_kept device
  rw [second_run] at second_kept device
  refine ⟨device, agree.formatter.imp (fun same => ?_) fun patterned => ?_⟩
  · rw [first_kept, second_kept, same]
  · rw [PatternedFirst, dates_cons_other other] at patterned
    exact patterned

/-- A rendering that does not wait is the same on two sessions with the same device and the same
formatter, and on any two with the same device if its first date has a pattern. -/
theorem result_of_render_eq (zone : Zone) (immediate : context.mayBlock = false)
    (agree : Agree first second segments) :
    (runOn (renderSegments (resolve zone context) segments) first).1 =
      (runOn (renderSegments (resolve zone context) segments) second).1 := by
  induction segments generalizing first second with
  | nil => rfl
  | cons segment rest ih =>
      cases segment with
      | literal text =>
          rw [renderSegments]
          exact result_of_bind_eq (ih ⟨agree.device, agree.formatter⟩) fun _ _ _ _ _ => rfl
      | reference target =>
          rw [renderSegments]
          have alike : AnswersAlike (resolve zone context target) first second rest := by
            by_cases dated : target.name = Variable.date.name
            · exact alike_of_date dated agree
            · exact alike_of_ne_date immediate dated agree
          refine result_of_bind_eq alike.1 fun value early late first_run second_run => ?_
          exact result_of_bind_eq (ih (alike.2 value early late first_run second_run))
            fun _ _ _ _ _ => rfl

/-- Details as those of a call that is no conference. -/
def unflagged (details : Details) : Details :=
  { details with isConference := false }

/-- A context in which only the recording says whether the call is a conference. -/
def Context.unflagged (context : Context) : Context :=
  { context with
    parent := Naming.unflagged context.parent
    parties := context.parties.map Naming.unflagged }

/-- The flags of a call do not change what its parties are called. -/
theorem mapM_unflagged (context : Context) (parties : List Details) :
    (parties.map unflagged).mapM (contactName context.unflagged) =
      parties.mapM (contactName context) := by
  induction parties with
  | nil => rfl
  | cons party rest ih =>
      rw [List.map_cons, List.mapM_cons, List.mapM_cons, ih]
      rfl

/-- The details of a call do not tell any answer whether it is a conference. -/
theorem resolve_unflagged (zone : Zone) (context : Context) (target : Reference) :
    resolve zone context.unflagged target = resolve zone context target := by
  unfold resolve
  split
  · rfl
  · rfl
  · rfl
  · rfl
  · rw [resolvePhoneNumber, Context.unflagged, List.map_map]
    rfl
  · rw [resolveCallerName, Context.unflagged, List.map_map]
    rfl
  · have names : context.unflagged.parties.mapM (contactName context.unflagged) =
        context.parties.mapM (contactName context) := mapM_unflagged context context.parties
    rw [resolveContactName, resolveContactName, names]
    rfl

end RecordingName.Naming
