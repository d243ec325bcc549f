import RecordingName.Proofs.Naming.Dating
import RecordingName.Proofs.Naming.Hiding

/-!
# The standard template on a session

The standard template fails only if the call has no timestamp, by
`runOn_renderStandard_of_error`, and then leaves the session alone, or if the formatter in force
cannot write it: `runOn_renderStandard_of_unencodable`. Otherwise it writes the timestamp first,
with an underscore behind it: `runOn_renderStandard_of_ok`. What follows, the `standardText`,
depends on the call alone.
-/

namespace RecordingName.Naming

open DateFormat Template

variable {α β : Type}

/-- An evaluation that never fails. -/
def Succeeds (work : Evaluation α) : Prop :=
  ∀ session, ∃ value behind, runOn work session = (.ok value, behind)

/-- Programs that always succeed do so together. -/
theorem Succeeds.composable : Composable fun _ work => Succeeds work where
  pure value session := ⟨value, session, rfl⟩
  bind {_ _ _ _} first second session := by
    obtain ⟨value, middle, worked⟩ := first session
    obtain ⟨result, behind, followed⟩ := second value middle
    exact ⟨result, behind, runOn_bind_eq_ok.2 ⟨value, middle, worked, followed⟩⟩
  report _ _ _ _ := ⟨(), _, rfl⟩
  hide _ _ _ := ⟨(), _, rfl⟩

/-- The segments of the standard template behind the date. -/
def standardRest : List Segment :=
  [.literal ['_'], .reference ⟨"direction".text, none⟩, .literal ['_'],
    .reference ⟨"phone_number".text, none⟩]

/-- The word for the direction of a call, if it has one. -/
def directionWord (context : Context) : Text :=
  if context.isConference then "conference".text
  else
    match context.parent.direction with
    | some .incoming => "in".text
    | some .outgoing => "out".text
    | _ => []

/-- What the standard template writes behind the date and an underscore. -/
def standardText (context : Context) : Text :=
  directionWord context ++ .scalar '_' :: joinDistinct (context.parties.map Details.phoneNumber?)

/-- The direction is answered with its word. -/
theorem runOn_resolveDirection (context : Context) (session : Session) :
    ∃ value behind, runOn (resolveDirection context) session = (.ok value, behind) ∧
      value.getD [] = directionWord context := by
  unfold resolveDirection directionWord
  split
  · exact ⟨_, _, rfl, rfl⟩
  · cases context.parent.direction with
    | none => exact ⟨_, _, rfl, rfl⟩
    | some direction =>
        cases direction with
        | incoming => exact ⟨_, _, rfl, rfl⟩
        | outgoing => exact ⟨_, _, rfl, rfl⟩
        | unknown => exact ⟨_, _, rfl, rfl⟩

/-- What stands behind the date is always rendered, as a text that the call gives, and leaves the
timestamp and the formatter alone. -/
theorem runOn_renderStandardRest (zone : Zone) (context : Context) (session : Session) :
    ∃ rendering behind,
      runOn (renderSegments (resolve zone context) standardRest) session = (.ok rendering, behind) ∧
        rendering.text = .scalar '_' :: standardText context ∧ SameDate session behind := by
  obtain ⟨direction, middle, directed, word⟩ := runOn_resolveDirection context session
  obtain ⟨number, behind, numbered⟩ :=
    Succeeds.composable.handOut context (joinDistinct (context.parties.map Details.phoneNumber?))
      "<phone number>".text "<conference phone numbers>".text middle
  have joined := (knows_of_handOut numbered).1
  have before := (Keeps.composable SameDate.drift).direction context session
  have after := (Keeps.composable SameDate.drift).handOut context
    (joinDistinct (context.parties.map Details.phoneNumber?))
    "<phone number>".text "<conference phone numbers>".text middle
  rw [directed] at before
  rw [numbered] at after
  refine ⟨[(.literal ['_'], ['_']), (.reference ⟨"direction".text, none⟩, direction.getD []),
      (.literal ['_'], ['_']), (.reference ⟨"phone_number".text, none⟩, number.getD [])],
    behind, ?_, ?_, SameDate.drift.trans before after⟩
  · refine runOn_render_literal.2 ⟨_, ?_, rfl⟩
    refine runOn_render_reference.2 ⟨direction, middle, _, directed, ?_, rfl⟩
    refine runOn_render_literal.2 ⟨_, ?_, rfl⟩
    exact runOn_render_reference.2 ⟨number, behind, [], numbered, rfl, rfl⟩
  · simp [standardText, word, joined]

/-- What stands in the way of a date without a pattern: that the call has no timestamp, or that the
formatter in force cannot write it. -/
def dateFault? (zone : Zone) (context : Context) (formatter : Formatter) : Option Fault :=
  match ZonedTimestamp.ofMillis zone context.parent.creationMillis with
  | .error error => some (.instant error)
  | .ok _ => formatter.encodingError?.map fun error => .format (.encoding error)

/-- A call whose time is out of range fails at every date, whatever the formatter. -/
theorem dateFault?_of_error {zone : Zone} {context : Context} {error : InstantError}
    (failed : ZonedTimestamp.ofMillis zone context.parent.creationMillis = .error error)
    (formatter : Formatter) : dateFault? zone context formatter = some (.instant error) := by
  rw [dateFault?, failed]

/-- A call with a time fails at a date only by the text of the formatter. -/
theorem dateFault?_of_made {zone : Zone} {context : Context} {stamp : ZonedTimestamp}
    (made : ZonedTimestamp.ofMillis zone context.parent.creationMillis = .ok stamp)
    (formatter : Formatter) :
    dateFault? zone context formatter =
      formatter.encodingError?.map fun error => .format (.encoding error) := by
  rw [dateFault?, made]

/-- If nothing stands in the way of a date, the formatter in force can write. -/
theorem isEncodable_of_clear {zone : Zone} {context : Context} {formatter : Formatter}
    (clear : dateFault? zone context formatter = none) : formatter.IsEncodable := by
  cases made : ZonedTimestamp.ofMillis zone context.parent.creationMillis with
  | error error =>
      rw [dateFault?_of_error made] at clear
      cases clear
  | ok stamp =>
      rw [dateFault?_of_made made, Option.map_eq_none_iff] at clear
      exact clear

/-- The standard template fails without a trace if the call has no timestamp. -/
theorem runOn_renderStandard_of_error {zone : Zone} {context : Context} {error : InstantError}
    (failed : ZonedTimestamp.ofMillis zone context.parent.creationMillis = .error error)
    (session : Session) :
    runOn (renderSegments (resolve zone context) Template.standard.segments) session =
      (.error (.instant error), session) := by
  have dated : runOn (resolve zone context ⟨"date".text, none⟩) session =
      (.error (.instant error), session) := runOn_resolveDate_of_error failed none session
  change runOn (renderSegments _ (.reference _ :: standardRest)) session = _
  rw [renderSegments, runOn_bind, dated]

/-- The standard template fails with the timestamp left behind if the formatter in force cannot
write it. -/
theorem runOn_renderStandard_of_unencodable {zone : Zone} {context : Context}
    {stamp : ZonedTimestamp} {error : Text.EncodingError} {session : Session}
    (made : ZonedTimestamp.ofMillis zone context.parent.creationMillis = .ok stamp)
    (unencodable : session.formatter.encodingError? = some error) :
    ∃ log, runOn (renderSegments (resolve zone context) Template.standard.segments) session =
      (.error (.format (.encoding error)), { session with timestamp := some stamp, log }) := by
  obtain ⟨log, dated⟩ := runOn_resolveDate_of_made made none session
  rw [chosenFormatter, dateAnswer, unencodable] at dated
  refine ⟨log, ?_⟩
  change runOn (renderSegments _ (.reference ⟨"date".text, none⟩ :: standardRest)) session = _
  rw [renderSegments, runOn_bind, resolve_of_date rfl, dated]

/-- The standard template writes the timestamp of the call first, with an underscore behind
it, if the formatter in force can write. -/
theorem runOn_renderStandard_of_ok {zone : Zone} {context : Context} {stamp : ZonedTimestamp}
    {session : Session}
    (made : ZonedTimestamp.ofMillis zone context.parent.creationMillis = .ok stamp)
    (encodable : session.formatter.IsEncodable) :
    ∃ rendering behind,
      runOn (renderSegments (resolve zone context) Template.standard.segments) session =
        (.ok rendering, behind) ∧
      rendering.text = session.formatter.write stamp ++ .scalar '_' :: standardText context ∧
      behind.timestamp = some stamp ∧ behind.formatter = session.formatter := by
  obtain ⟨log, dated⟩ := @runOn_resolveDate_of_ok zone context stamp made none session encodable
  obtain ⟨following, behind, rendered, shape, same⟩ := runOn_renderStandardRest zone context
    { session with timestamp := some stamp, formatter := session.formatter, log }
  refine ⟨(.reference ⟨"date".text, none⟩, session.formatter.write stamp) :: following, behind,
    ?_, ?_, same.1, same.2⟩
  · exact runOn_render_reference.2 ⟨_, _, following, dated, rendered, rfl⟩
  · rw [Rendering.text_cons, shape]

section Fault

variable {zone : Zone} {context : Context} {session : Session}

/-- The standard template fails for what stands in the way of its date. -/
theorem runOn_renderStandard_of_fault {fault : Fault}
    (found : dateFault? zone context session.formatter = some fault) :
    ∃ behind, runOn (renderSegments (resolve zone context) Template.standard.segments) session =
      (.error fault, behind) := by
  cases made : ZonedTimestamp.ofMillis zone context.parent.creationMillis with
  | error error =>
      rw [dateFault?, made] at found
      cases found
      exact ⟨session, runOn_renderStandard_of_error made session⟩
  | ok stamp =>
      rw [dateFault?_of_made made, Option.map_eq_some_iff] at found
      obtain ⟨error, unencodable, rfl⟩ := found
      obtain ⟨log, failed⟩ := runOn_renderStandard_of_unencodable made unencodable
      exact ⟨_, failed⟩

/-- The standard template is rendered if nothing stands in the way of its date. -/
theorem runOn_renderStandard_of_no_fault
    (clear : dateFault? zone context session.formatter = none) :
    ∃ rendering behind, runOn (renderSegments (resolve zone context) Template.standard.segments)
      session = (.ok rendering, behind) := by
  cases made : ZonedTimestamp.ofMillis zone context.parent.creationMillis with
  | error error =>
      rw [dateFault?, made] at clear
      cases clear
  | ok stamp =>
      rw [dateFault?_of_made made, Option.map_eq_none_iff] at clear
      obtain ⟨rendering, behind, rendered, _⟩ := runOn_renderStandard_of_ok made clear
      exact ⟨rendering, behind, rendered⟩

end Fault

end RecordingName.Naming
