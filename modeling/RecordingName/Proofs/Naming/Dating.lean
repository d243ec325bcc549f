import RecordingName.Proofs.Naming.Rendering
import RecordingName.Template.Location

/-!
# Dates in renderings

Only dates touch the timestamp and the formatter of a session, and each of them writes the
timestamp of the call in the formatter that the dates so far have chosen, `formatterBehind`.
`dated_of_render` says so of every date in a rendering, and `runOn_render_formatter` of the
formatter that is left behind. A date chooses a formatter only by a valid pattern, so that
`Unpatterned` segments leave the formatter alone.
-/

namespace RecordingName

open DateFormat Template

/-- A name belongs to a variable exactly when it is the variable's own. -/
theorem Naming.Variable.ofName?_eq_some_iff {name : Text} {variable_ : Variable} :
    ofName? name = some variable_ ↔ name = variable_.name := by
  constructor
  · intro found
    have named := List.find?_some found
    exact (of_decide_eq_true named).symm
  · rintro rfl
    exact ofName?_name variable_

/-- The references to the date among segments, in order. -/
def Template.dates (segments : List Segment) : List Reference :=
  referencesTo Naming.Variable.date.name segments

/-- The pattern of a date, if it has a valid one. -/
def Reference.pattern? (target : Reference) : Option Pattern :=
  target.argument.bind fun text => (Pattern.parse text).toOption

/-- A date chooses the formatter of its pattern, or leaves the one in force. -/
theorem Naming.chosenFormatter_eq (formatter : Formatter) (target : Reference) :
    chosenFormatter formatter target.argument =
      (target.pattern?.map Formatter.custom).getD formatter := by
  rw [Reference.pattern?]
  cases target.argument with
  | none => rfl
  | some text =>
      rw [chosenFormatter, Option.bind_some]
      cases Pattern.parse text with
      | ok pattern => rfl
      | error error => rfl

/-- A date with a written pattern chooses the formatter of that pattern. -/
theorem Naming.chosenFormatter_print {pattern : Pattern} (nonempty : pattern.items ≠ [])
    (formatter : Formatter) :
    chosenFormatter formatter (some pattern.print) = .custom pattern := by
  rw [chosenFormatter, Pattern.parse_print nonempty]

namespace Template

variable {target : Reference} {segments rest : List Segment}

/-- No date has a valid pattern. -/
def Unpatterned (segments : List Segment) : Prop :=
  ∀ target ∈ dates segments, target.pattern? = none

/-- Every valid pattern of a date can be written by. -/
def Writable (segments : List Segment) : Prop :=
  ∀ target ∈ dates segments, ∀ pattern, target.pattern? = some pattern →
    (Formatter.custom pattern).IsEncodable

/-- Without patterns there is none that cannot be written. -/
theorem Unpatterned.writable (unpatterned : Unpatterned segments) : Writable segments := by
  intro target member pattern patterned
  rw [unpatterned target member] at patterned
  cases patterned

theorem dates_cons_literal (text : Text) (rest : List Segment) :
    dates (.literal text :: rest) = dates rest := rfl

theorem dates_cons_date (dated : target.name = Naming.Variable.date.name) (rest : List Segment) :
    dates (.reference target :: rest) = target :: dates rest :=
  if_pos dated

theorem dates_cons_other (other : target.name ≠ Naming.Variable.date.name) (rest : List Segment) :
    dates (.reference target :: rest) = dates rest :=
  if_neg other

theorem dates_append (first second : List Segment) :
    dates (first ++ second) = dates first ++ dates second :=
  referencesTo_append _ first second

/-- The dates of a template are its references by that name. -/
theorem mem_dates : target ∈ dates segments ↔
    .reference target ∈ segments ∧ target.name = Naming.Variable.date.name :=
  mem_referencesTo

/-- The date of the default template has no pattern. -/
theorem unpatterned_standard : Unpatterned Template.standard.segments := by
  intro target member
  have only : dates Template.standard.segments = [⟨"date".text, none⟩] := by decide
  rw [only, List.mem_singleton] at member
  rw [member]
  rfl

end Template

namespace Naming

variable {zone : Zone} {context : Context} {target : Reference} {segments : List Segment}
  {session behind : Session} {rendering : Rendering}

/-- What every answer but a date leaves as it is. -/
def SameDate (before behind : Session) : Prop :=
  behind.timestamp = before.timestamp ∧ behind.formatter = before.formatter

/-- Reporting, hiding, asking and looking up leave the formatter and the noted time. -/
theorem SameDate.drift : Drift SameDate where
  refl _ := ⟨rfl, rfl⟩
  trans first second := ⟨second.1.trans first.1, second.2.trans first.2⟩
  hide _ _ _ := ⟨rfl, rfl⟩
  ask _ := ⟨rfl, rfl⟩
  lookUp _ _ _ _ := ⟨rfl, rfl⟩

theorem resolve_of_date (dated : target.name = Variable.date.name) :
    resolve zone context target = resolveDate zone context target.argument := by
  unfold resolve
  rw [Variable.ofName?_eq_some_iff.2 dated]

/-- So does every variable but the date. -/
theorem sameDate_of_ne_date (zone : Zone) (context : Context)
    (other : target.name ≠ Variable.date.name) : Keeps SameDate (resolve zone context target) :=
  Keeps.resolve_of_ne_date SameDate.drift zone context
    fun found => other (Variable.ofName?_eq_some_iff.1 found)

/-- A call without a timestamp leaves the timestamp and the formatter alone. -/
theorem sameDate_of_error {error : InstantError}
    (failed : ZonedTimestamp.ofMillis zone context.parent.creationMillis = .error error)
    (target : Reference) : Keeps SameDate (resolve zone context target) := by
  by_cases dated : target.name = Variable.date.name
  · intro session
    rw [resolve_of_date dated, runOn_resolveDate_of_error failed]
    exact SameDate.drift.refl session
  · exact sameDate_of_ne_date zone context dated

/-- What every answer but a date with a pattern leaves as it is. -/
def SameFormatter (before behind : Session) : Prop :=
  behind.formatter = before.formatter

/-- Reporting, hiding, asking and looking up leave the formatter. -/
theorem SameFormatter.drift : Drift SameFormatter where
  refl _ := rfl
  trans first second := second.trans first
  hide _ _ _ := rfl
  ask _ := rfl
  lookUp _ _ _ _ := rfl

/-- A date without a pattern leaves the formatter alone, and so does what is no date. -/
theorem sameFormatter_of_unpatterned (zone : Zone) (context : Context)
    (unpatterned : Unpatterned segments) (member : .reference target ∈ segments) :
    Keeps SameFormatter (resolve zone context target) := by
  intro session
  by_cases dated : target.name = Variable.date.name
  · rw [resolve_of_date dated]
    cases made : ZonedTimestamp.ofMillis zone context.parent.creationMillis with
    | error error =>
        rw [runOn_resolveDate_of_error made]
        exact SameFormatter.drift.refl session
    | ok stamp =>
        obtain ⟨log, answered⟩ := runOn_resolveDate_of_made made target.argument session
        rw [answered, SameFormatter, chosenFormatter_eq,
          unpatterned target (mem_dates.2 ⟨member, dated⟩)]
        rfl
  · exact (sameDate_of_ne_date zone context dated session).2

/-- What is left behind by a formatter that writes: one that writes, too. -/
def StaysEncodable (before behind : Session) : Prop :=
  before.formatter.IsEncodable → behind.formatter.IsEncodable

/-- Reporting, hiding, asking and looking up leave a formatter that can write. -/
theorem StaysEncodable.drift : Drift StaysEncodable where
  refl _ := id
  trans first second := second ∘ first
  hide _ _ _ := id
  ask _ := id
  lookUp _ _ _ _ := id

/-- If all patterns can be written by, no answer puts another formatter in force. -/
theorem staysEncodable_of_writable (zone : Zone) (context : Context) (writable : Writable segments)
    (member : .reference target ∈ segments) :
    Keeps StaysEncodable (resolve zone context target) := by
  intro session encodable
  by_cases dated : target.name = Variable.date.name
  · rw [resolve_of_date dated]
    cases made : ZonedTimestamp.ofMillis zone context.parent.creationMillis with
    | error error =>
        rw [runOn_resolveDate_of_error made]
        exact encodable
    | ok stamp =>
        obtain ⟨log, answered⟩ := runOn_resolveDate_of_made made target.argument session
        rw [answered, chosenFormatter_eq]
        cases patterned : target.pattern? with
        | none => exact encodable
        | some pattern => exact writable target (mem_dates.2 ⟨member, dated⟩) pattern patterned
  · rw [(sameDate_of_ne_date zone context dated session).2]
    exact encodable

/-- A date that fails though the call has a timestamp leaves it behind, with the formatter that it
chooses and that cannot write it. -/
theorem unwritten_of_resolve {stamp : ZonedTimestamp} {fault : Fault}
    (dated : target.name = Variable.date.name)
    (made : ZonedTimestamp.ofMillis zone context.parent.creationMillis = .ok stamp)
    (ran : runOn (resolve zone context target) session = (.error fault, behind)) :
    ∃ error, behind.formatter.encodingError? = some error ∧ fault = .format (.encoding error) ∧
      behind.formatter = chosenFormatter session.formatter target.argument ∧
      behind.timestamp = some stamp := by
  obtain ⟨log, answered⟩ := runOn_resolveDate_of_made made target.argument session
  rw [resolve_of_date dated, answered, Prod.mk.injEq] at ran
  obtain ⟨failed, rfl⟩ := ran
  rw [dateAnswer] at failed
  cases found : (chosenFormatter session.formatter target.argument).encodingError? with
  | none =>
      rw [found] at failed
      cases failed
  | some error =>
      rw [found] at failed
      exact ⟨error, rfl, (Except.error.inj failed).symm, rfl, rfl⟩

/-- A date that is answered is the timestamp of the call, in the formatter that it chooses, and
leaves both behind. -/
theorem dated_of_resolve {answer : Option Text} (dated : target.name = Variable.date.name)
    (ran : runOn (resolve zone context target) session = (.ok answer, behind)) :
    ∃ stamp, ZonedTimestamp.ofMillis zone context.parent.creationMillis = .ok stamp ∧
      (chosenFormatter session.formatter target.argument).IsEncodable ∧
      answer = some ((chosenFormatter session.formatter target.argument).write stamp) ∧
      behind.timestamp = some stamp ∧
      behind.formatter = chosenFormatter session.formatter target.argument := by
  rw [resolve_of_date dated] at ran
  cases made : ZonedTimestamp.ofMillis zone context.parent.creationMillis with
  | error error =>
      rw [runOn_resolveDate_of_error made] at ran
      cases ran
  | ok stamp =>
      obtain ⟨log, answered⟩ := runOn_resolveDate_of_made made target.argument session
      rw [answered, Prod.mk.injEq] at ran
      obtain ⟨written, rfl⟩ := ran
      obtain ⟨encodable, shown⟩ := dateAnswer_eq_ok_iff.1 written
      exact ⟨stamp, rfl, encodable, shown, rfl, rfl⟩

/-- The formatter in force behind the dates among segments. -/
def formatterBehind (formatter : Formatter) (segments : List Segment) : Formatter :=
  (dates segments).foldl (fun current target => chosenFormatter current target.argument) formatter

/-- The formatter behind two templates is that behind the second, from the one behind the first. -/
theorem formatterBehind_append (formatter : Formatter) (first second : List Segment) :
    formatterBehind formatter (first ++ second) =
      formatterBehind (formatterBehind formatter first) second := by
  rw [formatterBehind, dates_append, List.foldl_append]
  rfl

theorem formatterBehind_date (dated : target.name = Variable.date.name) (formatter : Formatter) :
    formatterBehind formatter [.reference target] =
      chosenFormatter formatter target.argument := by
  rw [formatterBehind, dates_cons_date dated]
  rfl

/-- Without dates the formatter stays. -/
theorem formatterBehind_of_undated (formatter : Formatter) (undated : dates segments = []) :
    formatterBehind formatter segments = formatter := by
  rw [formatterBehind, undated]
  rfl

/-- Dates without patterns leave the formatter as well. -/
theorem formatterBehind_of_unpatterned (formatter : Formatter)
    (unpatterned : Unpatterned segments) : formatterBehind formatter segments = formatter := by
  have each : ∀ target ∈ dates segments, ∀ current : Formatter,
      chosenFormatter current target.argument = current := by
    intro target member current
    rw [chosenFormatter_eq, unpatterned target member]
    rfl
  rw [formatterBehind]
  generalize dates segments = targets at each
  induction targets with
  | nil => rfl
  | cons target rest ih =>
      rw [List.foldl_cons, each target (List.mem_cons_self ..)]
      exact ih fun other member => each other (List.mem_cons_of_mem _ member)

/-- A rendering leaves the formatter behind that its dates have chosen. -/
theorem runOn_render_formatter
    (rendered : runOn (renderSegments (resolve zone context) segments) session =
      (.ok rendering, behind)) :
    behind.formatter = formatterBehind session.formatter segments := by
  induction segments generalizing session rendering with
  | nil =>
      obtain ⟨_, rfl⟩ := runOn_render_nil.1 rendered
      rfl
  | cons segment rest ih =>
      cases segment with
      | literal text =>
          obtain ⟨following, after_head, _⟩ := runOn_render_literal.1 rendered
          exact ih after_head
      | reference target =>
          obtain ⟨value, middle, following, answered, after_head, _⟩ :=
            runOn_render_reference.1 rendered
          by_cases dated : target.name = Variable.date.name
          · obtain ⟨stamp, _, _, _, _, chosen⟩ := dated_of_resolve dated answered
            rw [ih after_head, chosen, formatterBehind, formatterBehind, dates_cons_date dated,
              List.foldl_cons]
          · have kept := sameDate_of_ne_date zone context dated session
            rw [answered] at kept
            rw [ih after_head, kept.2, formatterBehind, formatterBehind, dates_cons_other dated]

/-- Once the timestamp of the call is there, it stays. -/
theorem keeps_timestamp {stamp : ZonedTimestamp}
    (made : ZonedTimestamp.ofMillis zone context.parent.creationMillis = .ok stamp)
    (segments : List Segment) :
    Keeps (fun before behind => before.timestamp = some stamp → behind.timestamp = some stamp)
      (renderSegments (resolve zone context) segments) := by
  have drift : Drift fun before behind =>
      before.timestamp = some stamp → behind.timestamp = some stamp :=
    ⟨fun _ same => same, fun first second same => second (first same),
      fun _ _ _ same => same, fun _ same => same, fun _ _ _ _ same => same⟩
  refine Keeps.render drift segments fun target _ => ?_
  by_cases dated : target.name = Variable.date.name
  · intro session _
    obtain ⟨log, answered⟩ := runOn_resolveDate_of_made made target.argument session
    rw [resolve_of_date dated, answered]
  · intro session same
    exact (sameDate_of_ne_date zone context dated session).1.trans same

/-- Every date in a rendering is the timestamp of the call, in the formatter that the dates up to
it have chosen, and the timestamp is left behind. -/
theorem dated_of_render
    (rendered : runOn (renderSegments (resolve zone context) segments) session =
      (.ok rendering, behind))
    {first last : Rendering} {text : Text}
    (split : rendering = first ++ (.reference target, text) :: last)
    (dated : target.name = Variable.date.name) :
    ∃ stamp, ZonedTimestamp.ofMillis zone context.parent.creationMillis = .ok stamp ∧
      text = (formatterBehind session.formatter
        (first.map (·.1) ++ [.reference target])).write stamp ∧
      behind.timestamp = some stamp := by
  have shape := segments_of_render rendered
  rw [split, List.map_append, List.map_cons] at shape
  rw [← shape] at rendered
  obtain ⟨before, middle, following, front, back, whole⟩ := runOn_render_append.1 rendered
  have lengths : first.length = before.length := by
    have front_shape := congrArg List.length (segments_of_render front)
    simpa using front_shape.symm
  obtain ⟨rfl, rest⟩ := List.append_inj (split.symm.trans whole) lengths
  obtain ⟨value, late, others, answered, after_date, entry⟩ := runOn_render_reference.1 back
  rw [entry] at rest
  cases rest
  obtain ⟨stamp, made, _, shown, timestamp, _⟩ := dated_of_resolve dated answered
  refine ⟨stamp, made, ?_, ?_⟩
  · rw [shown, runOn_render_formatter front, formatterBehind_append, formatterBehind_date dated]
    rfl
  · have kept := keeps_timestamp made (last.map (·.1)) late timestamp
    rw [after_date] at kept
    exact kept

end Naming
end RecordingName
